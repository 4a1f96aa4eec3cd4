import Scanout.Proofs.Display.Footprint
import Scanout.Proofs.Display.Program

/-!
Outputs on one block. Routing and mode sets refuse an output whose block is driving another, and
reading the registers back gives a shared block to one output only, whatever they hold. Switching an
output on by itself is not checked: as long as that is not done to an output whose block is busy, no
two active outputs ever share a block, and not a moment longer (`reaches_exclusive`);
`power_not_exclusive` is a run in which it is done.
-/

set_option autoImplicit false
set_option relaxedAutoImplicit false

namespace Scanout

open Register

namespace Output

/-- The outputs that a board can have. -/
def Id.all : List Id := [.dac1, .dac2, .tmds1, .tmds2, .lvds]

theorem Id.sharesBlockWith_comm (first second : Id) :
    first.sharesBlockWith second = second.sharesBlockWith first :=
  decide_eq_decide.mpr (and_congr ne_comm eq_comm)

/-- A block that two outputs share is enabled for one of them only. -/
theorem not_enabledIn_both (file : RegisterFile) {first second : Id} (hfirst : first ∈ Id.all)
    (hsecond : second ∈ Id.all) (hshares : first.sharesBlockWith second = true) :
    ¬(enabledIn file first = true ∧ enabledIn file second = true) := by
  have hpair : ∀ a ∈ Id.all, ∀ b ∈ Id.all, a.sharesBlockWith b = true →
      a = .tmds2 ∧ b = .lvds ∨ a = .lvds ∧ b = .tmds2 := by decide
  -- One of them is enabled only with the panel under power, the other only without.
  have hpanel : ∀ id : Id, id.block = .lvtm → enabledIn file id = true →
      (file.value panelSequencer &&& panelPowered != 0) = decide (id.kind = .lvds) := by
    intro id hblock henabled
    rw [enabledIn, if_pos hblock, Bool.and_eq_true, beq_iff_eq] at henabled
    exact henabled.2
  rintro ⟨hone, hother⟩
  rcases hpair first hfirst second hsecond hshares with ⟨rfl, rfl⟩ | ⟨rfl, rfl⟩
  · cases (hpanel _ rfl hone).symm.trans (hpanel _ rfl hother)
  · cases (hpanel _ rfl hone).symm.trans (hpanel _ rfl hother)

end Output

namespace Display

/-- No two active outputs share a block. -/
def Exclusive (display : Display) : Prop :=
  ∀ first ∈ display.outputs, ∀ second ∈ display.outputs, first.isActive = true →
    second.isActive = true → first.id.sharesBlockWith second.id = false

instance (display : Display) : Decidable display.Exclusive :=
  inferInstanceAs (Decidable (∀ first ∈ display.outputs, ∀ second ∈ display.outputs, _))

/-- The board has outputs of the family only, and no two active ones share a block. -/
structure Apart (display : Display) : Prop where
  listed : ∀ view ∈ display.outputs, view.id ∈ Output.Id.all
  exclusive : display.Exclusive

variable {display : Display} {pipe : Pipe} {request : Request} {plan : Pipe.Plan}

theorem isBusy_eq_false {id : Output.Id} : display.isBusy id = false ↔
    ∀ view ∈ display.outputs, view.isActive = true → id.sharesBlockWith view.id = false := by
  simp [isBusy]

/-- An output may become active if its block is not driving another. -/
theorem Apart.withOutput (hapart : display.Apart) {id : Output.Id} {view changed : Output.View}
    (hfound : display.output? id = some view) (hid : changed.id = view.id)
    (hfree : changed.isActive = true → display.isBusy id = false) :
    (display.withOutput changed).Apart := by
  obtain rfl := output?_id hfound
  have hchanged : ∀ other ∈ display.outputs, changed.isActive = true → other.isActive = true →
      changed.id.sharesBlockWith other.id = false := by
    intro other hother hactive
    rw [hid]
    exact isBusy_eq_false.mp (hfree hactive) other hother
  constructor
  · intro other hother
    rcases mem_of_mem_replaceOutput hother with hold | rfl
    · exact hapart.listed other hold
    · rw [hid]
      exact hapart.listed view (output?_mem hfound)
  · intro first hfirst second hsecond hone hother
    rcases mem_of_mem_replaceOutput hfirst with hold | rfl <;>
      rcases mem_of_mem_replaceOutput hsecond with hkept | rfl
    · exact hapart.exclusive first hold second hkept hone hother
    · rw [Output.Id.sharesBlockWith_comm]
      exact hchanged first hold hother hone
    · exact hchanged second hkept hone hother
    · simp [Output.Id.sharesBlockWith]

/-- Reading the registers back leaves a shared block to one output. -/
theorem Apart.reread (hapart : display.Apart) (file : RegisterFile) :
    (reread file display).Apart := by
  have hactive : ∀ wiring : Output.Wiring, (Output.View.ofFile file wiring).isActive = true →
      Output.enabledIn file wiring.id = true := by
    intro wiring hactive
    cases henabled : Output.enabledIn file wiring.id with
    | true => rfl
    | false => simp [Output.View.isActive, Output.View.ofFile, henabled] at hactive
  constructor
  · intro view hview
    obtain ⟨old, hold, rfl⟩ := List.mem_map.mp hview
    exact hapart.listed old hold
  · intro first hfirst second hsecond hone hother
    obtain ⟨one, hold, rfl⟩ := List.mem_map.mp hfirst
    obtain ⟨other, hkept, rfl⟩ := List.mem_map.mp hsecond
    rw [Bool.eq_false_iff]
    intro hshares
    exact Output.not_enabledIn_both file (hapart.listed one hold) (hapart.listed other hkept)
      hshares ⟨hactive _ hone, hactive _ hother⟩

/-!
A mode set. It only ever switches the outputs that were checked, so wherever it stops an active one
is among these or was active before.
-/

/-- Some outputs aside, the cached ones are those of another state. -/
def Claims (ids : List Output.Id) (origin display : Display) : Prop :=
  ∀ view ∈ display.outputs, view ∈ origin.outputs ∨ view.id ∈ ids

theorem Accepted.apart_of_claims (haccepted : display.Accepted pipe request plan)
    (hapart : display.Apart) {left : Display} (hclaims : Claims request.outputs display left) :
    left.Apart := by
  have hlisted : ∀ id ∈ request.outputs, id ∈ Output.Id.all := by
    intro id hid
    obtain ⟨view, hview⟩ := haccepted.exists_output id hid
    rw [← output?_id hview]
    exact hapart.listed view (output?_mem hview)
  have hfree : ∀ id ∈ request.outputs, ∀ view ∈ display.outputs, view.isActive = true →
      id.sharesBlockWith view.id = false :=
    fun id hid ↦ isBusy_eq_false.mp (haccepted.free id hid)
  refine ⟨fun view hview ↦ (hclaims view hview).elim (hapart.listed view) (hlisted view.id), ?_⟩
  intro first hfirst second hsecond hone hother
  rcases hclaims first hfirst with hfirst | hfirst <;>
    rcases hclaims second hsecond with hsecond | hsecond
  · exact hapart.exclusive first hfirst second hsecond hone hother
  · rw [Output.Id.sharesBlockWith_comm]
    exact hfree second.id hsecond first hfirst hone
  · exact hfree first.id hfirst second hsecond hother
  · rw [Output.Id.sharesBlockWith, decide_eq_false_iff_not]
    rintro ⟨hne, hblock⟩
    exact hne (haccepted.apart _ hfirst _ hsecond hblock)

theorem keeps_program_claims (pipe : Pipe) (ids : List Output.Id) (plan : Pipe.Plan)
    (origin : Display) :
    (program pipe ids plan).Keeps (.asking fun _ ↦ True)
      fun display _ ↦ Claims ids origin display := by
  have hoff : ∀ view : Output.View,
      (view.setPower .off).Returns fun changed ↦ changed.id = view.id :=
    fun view ↦ (view.setPower_returns .off).mono fun _ _ hchanged ↦ by rw [hchanged]; rfl
  have hlight : ∀ view : Output.View, (do
      let view ← view.route pipe
      view.setPower .on : Hardware Output.View).Returns fun changed ↦ changed.id = view.id := by
    intro view
    refine (view.route_returns pipe).bind ?_
    rintro _ rfl
    exact ((view.routed pipe).setPower_returns .on).mono fun _ _ hchanged ↦ by rw [hchanged]; rfl
  have hchange : ∀ id ∈ ids, ∀ {change : Output.View → Hardware Output.View},
      (∀ view, (change view).Returns fun changed ↦ changed.id = view.id) →
        (onOutput id change).Keeps (.asking fun _ ↦ True)
          fun display _ ↦ Claims ids origin display := by
    intro id hid change hchange
    refine keeps_onOutput_of fun display _ view hclaims hfound ↦ ?_
    refine (hchange view).mono fun changed _ hsame other hother ↦ ?_
    rcases mem_of_mem_replaceOutput hother with hold | rfl
    · exact hclaims other hold
    · rw [hsame, output?_id hfound]
      exact .inr hid
  refine .bind (keeps_switchOff fun id hid ↦ hchange id hid hoff) fun _ ↦ .get_bind fun _ _ ↦
    .bind ?_ fun _ ↦ keeps_switchOn fun id hid ↦ hchange id hid hlight
  intro display _ hclaims
  rw [start_onPipe]
  refine Program.Returns.after _ fun out ↦ .done ?_
  rwa [Claims, outputs_setPipe]

/-!
Every other call leaves the outputs as they are, routes one of them or reads all of them back.
-/

/-- The invariant as one of actions on a register file. -/
abbrev KeepsApart {α : Type} (action : Action Display α) : Prop :=
  action.Keeps (.of RegisterFile.port) fun display _ ↦ display.Apart

theorem keepsApart_refresh : KeepsApart refresh :=
  fun _ file hapart ↦ meets_refresh (hapart.reread file)

theorem keepsApart_restoreSnapshot (snapshot : Snapshot) :
    KeepsApart (restoreSnapshot snapshot) :=
  .get_bind fun display _ ↦
    .bind ((Snapshot.keeps_restore display.device snapshot).of_asking _) fun _ ↦ keepsApart_refresh

theorem keepsApart_route (id : Output.Id) (pipe : Pipe) :
    KeepsApart (onOutput id fun view ↦ view.route pipe) := by
  refine keeps_onOutput_of fun display file view hapart hfound ↦ ?_
  refine ((view.route_returns pipe).of_asking _ file).mono ?_
  rintro _ _ rfl
  refine hapart.withOutput hfound rfl fun hactive ↦ isBusy_eq_false.mpr ?_
  obtain rfl := output?_id hfound
  exact fun other hother ↦ hapart.exclusive view (output?_mem hfound) other hother hactive

theorem passive_apart : Passive (.of RegisterFile.port) fun display _ ↦ display.Apart where
  note level text := .lift_cached _ (Hardware.note level text)
  pipePower pipe device request := by
    intro display file hapart
    rw [start_onPipe, Program.meets_bind, Program.meets_of_iff]
    exact .done ⟨by rw [outputs_setPipe]; exact hapart.listed,
      by rw [Exclusive, outputs_setPipe]; exact hapart.exclusive⟩
  route := keepsApart_route
  recover := keeps_recover_of (fun _ _ ↦ .lift_cached _ _)
    (fun snapshot device ↦ (Snapshot.keeps_restore device snapshot).of_asking _) keepsApart_refresh
  mapMemory := .get_bind fun display _ ↦ (display.device.keeps_mapMemory _ _).of_asking _
  saveState := .bind (.get_bind fun _ _ ↦ .bind (.lift_cached _ _) fun _ ↦
    .bind (.modify fun _ _ hapart ↦ ⟨hapart.listed, hapart.exclusive⟩) fun _ ↦ .pure _)
      fun _ ↦ .pure ()
  restoreState := keeps_restoreState_of keepsApart_restoreSnapshot
  cursor _ _ _ _ := .lift_cached _ _
  cursorControl _ _ _ := .lift_cached _ _

theorem meets_applyMode_apart (hapart : display.Apart) (pipe : Pipe) (request : Request)
    (file : RegisterFile) :
    ((applyMode pipe request).start display).Meets (.of RegisterFile.port)
      (fun out _ ↦ out.2.Apart) file := by
  cases hplan : display.plan pipe request with
  | error failure =>
    rw [start_applyMode_of_error hplan, Program.meets_ask]
    exact .done hapart
  | ok plan =>
    rw [start_applyMode hplan, Program.meets_ask]
    show Program.Meets _ _ (Program.ask _ _) file
    rw [Program.meets_ask]
    show Program.Meets _ _ (Program.bind _ _) file
    have hclaims := keeps_program_claims pipe request.outputs plan display display ()
      fun _ hview ↦ .inl hview
    refine (hclaims.of_asking RegisterFile.port file).bind fun out left hout ↦ ?_
    have hleft := (accepted_of_plan hplan).apart_of_claims hapart hout
    obtain ⟨(cause | reason) | _, rebuilt⟩ := out
    · rw [conclude]
      split
      · have hreport : KeepsApart
            (recover pipe >>= fun _ ↦ Action.refuse cause : Action Display Unit) :=
          .bind (passive_apart.recover pipe) fun _ ↦ .refuse cause
        have hstart := hreport rebuilt left hleft
        rwa [Action.start_bind] at hstart
      · exact .done hleft
    · exact .done hleft
    · rw [conclude, Program.meets_ask]
      exact .done hleft

/-!
Runs. A call may be made on any register file, since nothing is assumed of what happened to the
registers in between.
-/

/-- The call does not switch on an output whose block is driving another. -/
def Call.RespectsBlocks (display : Display) : Call → Prop
  | .setPower (.output id) request => request.isOn = true → display.isBusy id = false
  | _ => True

/-- The states that are reached from another one by calls that respect blocks, and by replaying
snapshots. -/
inductive Reaches (origin : Display) : Display → Prop where
  | start : Reaches origin origin
  | call {display : Display} (hreached : Reaches origin display) (call : Call)
    (hrespects : call.RespectsBlocks display) (file : RegisterFile) :
    Reaches origin ((call.action.start display).run RegisterFile.port file).1.2
  | replay {display : Display} (hreached : Reaches origin display) (snapshot : Snapshot)
    (file : RegisterFile) :
    Reaches origin (((restoreSnapshot snapshot).start display).run RegisterFile.port file).1.2

/-- Switching an output on keeps the invariant where its block is free, and switching it off
always does. -/
theorem meets_setPower_apart (hapart : display.Apart) {id : Output.Id} {request : Dpms}
    (hfree : request.isOn = true → display.isBusy id = false) (file : RegisterFile) :
    ((onOutput id fun view ↦ view.setPower request).start display).Meets (.of RegisterFile.port)
      (fun out _ ↦ out.2.Apart) file := by
  refine meets_onOutput hapart fun view hfound ↦ ?_
  refine ((view.setPower_returns request).of_asking _ file).mono ?_
  rintro _ _ rfl
  refine hapart.withOutput hfound rfl fun hactive ↦ hfree ?_
  cases hon : request.isOn with
  | true => rfl
  | false => simp [Output.View.isActive, Output.View.switched, hon] at hactive

/-- Switching an output on keeps its block exclusive exactly where the block is free. -/
theorem setPower_exclusive_iff (hapart : display.Apart) {id : Output.Id} {view : Output.View}
    (hfound : display.output? id = some view) {request : Dpms} (hon : request.isOn = true)
    (file : RegisterFile) :
    (((setPower (.output id) request).start display).run RegisterFile.port file).1.2.Exclusive ↔
      display.isBusy id = false := by
  have hrun : (((setPower (.output id) request).start display).run RegisterFile.port file).1.2 =
      display.withOutput (view.switched true) := by
    have hreturns := (view.setPower_returns request).returns RegisterFile.port file
    show (((onOutput id fun view ↦ view.setPower request).start display).run RegisterFile.port
      file).1.2 = _
    rw [start_onOutput hfound, Program.run_bind, hreturns, hon]
    rfl
  rw [hrun]
  constructor
  · intro hexclusive
    refine isBusy_eq_false.mpr fun other hother hactive ↦ ?_
    obtain rfl := output?_id hfound
    by_cases hid : other.id = view.id
    · simp [Output.Id.sharesBlockWith, hid]
    · exact hexclusive (view.switched true) (mem_replaceOutput_self ⟨view, output?_mem hfound, rfl⟩)
        other (mem_replaceOutput_of_ne hother hid) rfl hactive
  · intro hfree
    have hlit : (display.withOutput (view.switched true)).Apart :=
      hapart.withOutput hfound rfl fun _ ↦ hfree
    exact hlit.exclusive

theorem Apart.call (hapart : display.Apart) {call : Call} (hrespects : call.RespectsBlocks display)
    (file : RegisterFile) :
    ((call.action.start display).run RegisterFile.port file).1.2.Apart := by
  have htalk : ∀ {call : Call}, call.isDdc = true → KeepsApart call.action := by
    intro call hddc
    refine passive_apart.talk (fun id ↦ ?_) (fun id block ↦ ?_) hddc
    · exact keeps_withDdc id (fun _ ↦ .lift_cached _ _) fun _ _ _ _ _ ↦ .lift_cached _ _
    · exact keeps_withDdc id (fun _ ↦ .lift_cached _ _) fun _ _ _ _ _ ↦ .lift_cached _ _
  have hmeets : (call.action.start display).Meets (.of RegisterFile.port)
      (fun out _ ↦ out.2.Apart) file := by
    cases call with
    | applyMode pipe request => exact meets_applyMode_apart hapart pipe request file
    | setPower target request =>
      cases target with
      | output id => exact meets_setPower_apart hapart hrespects file
      | pipe pipe =>
        exact passive_apart.call (by rintro _ _ ⟨⟩) (by rintro _ _ ⟨⟩) htalk display file hapart
    | _ => exact passive_apart.call (by rintro _ _ ⟨⟩) (by rintro _ _ ⟨⟩) htalk display file hapart
  exact (Program.meets_of_iff ..).mp hmeets

theorem Apart.reaches (hapart : display.Apart) {state : Display}
    (hreached : Reaches display state) : state.Apart := by
  induction hreached with
  | start => exact hapart
  | call _ call hrespects file ih => exact ih.call hrespects file
  | replay _ snapshot file ih =>
    exact (Program.meets_of_iff ..).mp (keepsApart_restoreSnapshot snapshot _ file ih)

theorem apart_of_attachWith {adapter : Adapter} {config : Config} {wirings : List Output.Wiring}
    (hattach : attachWith adapter config wirings = .ok display)
    (hboard : ∀ wiring ∈ wirings, wiring.id ∈ Output.Id.all) : display.Apart := by
  have hbound := bound_of_attachWith hattach
  refine ⟨fun view hview ↦ hboard view.wiring (hbound.wired view hview), ?_⟩
  intro first hfirst _ _ hactive
  rw [hbound.inactive first hfirst] at hactive
  cases hactive

/-- On any board of the family's outputs, no two active outputs ever share a block, whatever is
called, answered and replayed, as long as no output is switched on by itself while its block is
driving another. In each of these states the condition is exact: switching an output on keeps the
blocks exclusive if and only if its own is free. -/
theorem reaches_exclusive {adapter : Adapter} {config : Config} {wirings : List Output.Wiring}
    {display state : Display} (hattach : attachWith adapter config wirings = .ok display)
    (hboard : ∀ wiring ∈ wirings, wiring.id ∈ Output.Id.all) (hreached : Reaches display state) :
    state.Exclusive ∧ ∀ id view request file, state.output? id = some view →
      request.isOn = true →
      ((((setPower (.output id) request).start state).run RegisterFile.port file).1.2.Exclusive ↔
        state.isBusy id = false) := by
  have hapart := (apart_of_attachWith hattach hboard).reaches hreached
  exact ⟨hapart.exclusive, fun _ _ _ file hfound hon ↦
    setPower_exclusive_iff hapart hfound hon file⟩

/-- A device with the second transmitter and the panel link, which share a block. -/
def shared : Display where
  device := desktop.device
  first := { pipe := .first }
  second := { pipe := .second }
  outputs := [{ wiring := ⟨.tmds2, .none, none⟩ }, { wiring := ⟨.lvds, .none, none⟩ }]
  saved := none
  base := 0
  size := 0x10000000

theorem attachWith_shared : attachWith ⟨0x7146, 0, 0x10000000⟩ {}
    [⟨.tmds2, .none, none⟩, ⟨.lvds, .none, none⟩] = .ok shared := rfl

/-- The transmitter is switched on while the block is free, and a mode set for the panel is refused
then; a replay in between changes nothing about it. The block is busy there, so switching the panel
on is what would break it. -/
theorem reaches_exclusive_shared :
    let request := { desktopRequest with outputs := [.lvds] }
    let routed := (((routeOutput .lvds .second).start shared).run RegisterFile.port .cleared).1.2
    let lit := (((setPower (.output .tmds2) .on).start routed).run RegisterFile.port .cleared).1.2
    let refused := (((applyMode .first request).start lit).run RegisterFile.port .cleared).1.2
    let replayed := (((restoreSnapshot (.ofFile shared.device .cleared)).start refused).run
      RegisterFile.port .cleared).1.2
    let both := (((setPower (.output .lvds) .on).start lit).run RegisterFile.port .cleared).1.2
    (lit.outputs.map Output.View.isActive = [true, false] ∧ lit.Exclusive) ∧ refused.Exclusive ∧
      replayed.Exclusive ∧ ¬both.Exclusive := by
  intro request routed lit refused replayed both
  have hboard : ∀ wiring ∈ [(⟨.tmds2, .none, none⟩ : Output.Wiring), ⟨.lvds, .none, none⟩],
      wiring.id ∈ Output.Id.all := by decide
  have hrouted : Reaches shared routed :=
    .call .start (.routeOutput .lvds .second) trivial .cleared
  have hlit : Reaches shared lit :=
    .call hrouted (.setPower (.output .tmds2) .on) (fun _ ↦ by decide +kernel) .cleared
  have hrefused : Reaches shared refused := .call hlit (.applyMode .first request) trivial .cleared
  have hreplayed : Reaches shared replayed := .replay hrefused _ .cleared
  have hpanel : lit.output? .lvds =
      some { wiring := ⟨.lvds, .none, none⟩, source := some .second } := by decide +kernel
  have hbusy : lit.isBusy .lvds = true := by decide +kernel
  obtain ⟨hexclusive, hpower⟩ := reaches_exclusive attachWith_shared hboard hlit
  refine ⟨⟨by decide +kernel, hexclusive⟩, (reaches_exclusive attachWith_shared hboard hrefused).1,
    (reaches_exclusive attachWith_shared hboard hreplayed).1, fun hboth ↦ ?_⟩
  cases hbusy.symm.trans ((hpower .lvds _ .on .cleared hpanel rfl).mp hboth)

/-- Nothing refuses to switch the panel link on while the transmitter is on, and then both are
active on one block. -/
theorem power_not_exclusive :
    let calls : List Call := [.routeOutput .tmds2 .first, .routeOutput .lvds .first,
      .setPower (.output .tmds2) .on, .setPower (.output .lvds) .on]
    attachWith ⟨0x7146, 0, 0x10000000⟩ {} [⟨.tmds2, .none, none⟩, ⟨.lvds, .none, none⟩] =
        .ok shared ∧
      ¬(((session calls).start shared).run RegisterFile.port .cleared).1.2.Exclusive :=
  ⟨attachWith_shared, by decide +kernel⟩

end Display

end Scanout
