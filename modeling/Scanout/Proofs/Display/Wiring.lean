import Scanout.Proofs.Display.Coherent
import Scanout.Proofs.Display.Footprint

/-!
Outputs stay wired as they were bound. No operation changes the device or what its outputs are wired
to, whatever is asked for, whatever is answered and wherever it stops: a pipe's view is not about
outputs, and an output that is switched, routed or read back keeps its wires.
-/

set_option autoImplicit false
set_option relaxedAutoImplicit false

namespace Scanout.Display

/-- The same device, with the same outputs on the same wires. -/
structure SameWiring (origin display : Display) : Prop where
  device : display.device = origin.device
  wirings : display.wirings = origin.wirings

theorem SameWiring.trans {origin middle display : Display} (hfirst : origin.SameWiring middle)
    (hsecond : middle.SameWiring display) : origin.SameWiring display where
  device := hsecond.device.trans hfirst.device
  wirings := hsecond.wirings.trans hfirst.wirings

/-- Wherever the action stops and whatever is answered, the wiring is as it was. -/
abbrev KeepsWiring {α : Type} (origin : Display) (action : Action Display α) : Prop :=
  action.Keeps (.asking fun _ ↦ True) fun display _ ↦ origin.SameWiring display

variable {origin : Display}

theorem keepsWiring_lift {α : Type} (program : Hardware α) :
    KeepsWiring origin (liftM program) :=
  .lift fun _ _ hsame ↦ program.meets_anything.mono fun _ _ _ ↦ hsame

theorem keepsWiring_onPipe (pipe : Pipe) (action : Action Pipe.View Unit) :
    KeepsWiring origin (onPipe pipe action) := by
  intro display _ hsame
  rw [start_onPipe]
  refine .bind (Program.meets_anything _) fun out _ _ ↦ .done ?_
  cases pipe <;> exact ⟨hsame.device, hsame.wirings⟩

theorem keepsWiring_onOutput {id : Output.Id} {change : Output.View → Hardware Output.View}
    (hchange : ∀ view, (change view).Returns fun changed ↦ changed.wiring = view.wiring) :
    KeepsWiring origin (onOutput id change) :=
  keeps_onOutput_of fun _ _ view hsame hfound ↦ (hchange view).mono fun changed _ hwiring ↦
    ⟨hsame.device, (SameBoard.withOutput changed hfound hwiring).wirings.trans hsame.wirings⟩

/-- Outputs that are read back are the same outputs. -/
theorem resyncOutputs_wirings (views : List Output.View) :
    (resyncOutputs views).Returns fun left ↦
      left.map Output.View.wiring = views.map Output.View.wiring := by
  induction views with
  | nil => exact .done rfl
  | cons view rest ih =>
    have hview : view.resync.Returns fun changed ↦ changed.wiring = view.wiring :=
      .after _ fun _ ↦ .after _ fun _ ↦ .done rfl
    refine hview.bind fun changed hchanged ↦ ih.bind fun left hleft ↦ .done ?_
    rw [List.map_cons, List.map_cons, hchanged, hleft]

theorem keepsWiring_refresh : KeepsWiring origin refresh := by
  intro display _ hsame
  rw [start_refresh]
  have hresync : display.resync.Returns fun left ↦ display.SameWiring left :=
    .after _ fun _ ↦ .after _ fun _ ↦
      (resyncOutputs_wirings display.outputs).bind fun _ hwirings ↦ .done ⟨rfl, hwirings⟩
  exact hresync.bind fun _ hleft ↦ .done (hsame.trans hleft)

theorem keepsWiring_restore (snapshot : Snapshot) (device : Device) :
    KeepsWiring origin (snapshot.restore device) :=
  (snapshot.keeps_restore device).widen fun _ _ ↦ trivial

theorem keepsWiring_restoreSnapshot (snapshot : Snapshot) :
    KeepsWiring origin (restoreSnapshot snapshot) :=
  .get_bind fun display _ ↦ .bind (keepsWiring_restore snapshot display.device) fun _ ↦
    keepsWiring_refresh

theorem keepsWiring_saveState : KeepsWiring origin saveState :=
  .get_bind fun _ _ ↦ .bind (keepsWiring_lift _) fun snapshot ↦
    .bind (.modify fun _ _ hsame ↦ ⟨hsame.device, hsame.wirings⟩) fun _ ↦ .pure snapshot

theorem setPower_wiring (view : Output.View) (request : Dpms) :
    (view.setPower request).Returns fun changed ↦ changed.wiring = view.wiring :=
  .after _ fun _ ↦ .after _ fun _ ↦ .done rfl

theorem route_wiring (view : Output.View) (pipe : Pipe) :
    (view.route pipe).Returns fun changed ↦ changed.wiring = view.wiring :=
  .after _ fun _ ↦ .done rfl

theorem steady_wiring :
    Steady (.asking fun _ ↦ True) fun display _ ↦ origin.SameWiring display where
  note _ _ := keepsWiring_lift _
  pipePower pipe _ _ := keepsWiring_onPipe pipe _
  setMode {_ pipe _ _} _ _ := keepsWiring_onPipe pipe _
  outputPower _ request := keepsWiring_onOutput fun view ↦ setPower_wiring view request
  route _ pipe := keepsWiring_onOutput fun view ↦ route_wiring view pipe
  light _ pipe := keepsWiring_onOutput fun view ↦ (route_wiring view pipe).bind fun routed hrouted ↦
    (setPower_wiring routed .on).mono fun _ _ hlit ↦ hlit.trans hrouted
  recover := keeps_recover_of (fun _ _ ↦ keepsWiring_lift _) keepsWiring_restore
    keepsWiring_refresh
  mapMemory := .get_bind fun display _ ↦ (display.device.keeps_mapMemory _ _).widen
    fun _ _ ↦ trivial
  saveState := .bind keepsWiring_saveState fun _ ↦ .pure ()
  restoreState := keeps_restoreState_of keepsWiring_restoreSnapshot
  cursor _ _ _ _ := keepsWiring_lift _
  cursorControl _ _ _ := keepsWiring_lift _

theorem keepsWiring_withDdc {α : Type} (id : Output.Id)
    (talk : {m : Type → Type} → [Monad m] → Edid.Bus m → m α) :
    KeepsWiring origin (withDdc id talk) :=
  keeps_withDdc id (fun _ ↦ keepsWiring_lift _) fun _ _ _ _ _ ↦ keepsWiring_lift _

theorem keepsWiring_call (call : Call) : KeepsWiring origin call.action :=
  steady_wiring.call (steady_wiring.talk (fun id ↦ keepsWiring_withDdc id Edid.probe)
    fun id block ↦ keepsWiring_withDdc id fun bus ↦ Edid.readBlock bus block)

end Scanout.Display
