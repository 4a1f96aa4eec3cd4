import Scanout.Display.Operation
import Scanout.Proofs.Action
import Scanout.Proofs.Output.Each
import Scanout.Proofs.Output.Switch

/-!
Switching the outputs of a request. As long as all of them exist the outputs are switched one after
another and nothing else happens: `darkenAll` and `lightAll` are these sequences apart from what is
cached, `Display.dark` and `Display.lit` what is cached after them, and `SameBoard` is what they
leave of the cached state. Both do one thing to each output in order (`Each`), and most of what is
shown of them is shown of that.
-/

set_option autoImplicit false
set_option relaxedAutoImplicit false

namespace Scanout

open Register

namespace Output

/-- What is noted when an output is switched. -/
def powerNote (id : Id) (request : Dpms) : Log.Entry where
  level := .debug
  text := s!"{id.name}: dpms {request.name}"

/-- Switch some outputs off, each with its note. -/
def darkenAll : List Id → Hardware Unit
  | [] => .done ()
  | id :: rest =>
    .ask (.note (powerNote id .off)) fun _ ↦ (switch id false).bind fun _ ↦ darkenAll rest

/-- The write that feeds an output from a pipe. -/
def routeWrite (id : Id) (pipe : Pipe) : Direct × UInt32 :=
  (id.register .sourceSelect, pipe.index.toUInt32)

/-- Feed some outputs from a pipe and switch them on, each with its note. -/
def lightAll (pipe : Pipe) : List Id → Hardware Unit
  | [] => .done ()
  | id :: rest =>
    (Hardware.writeAll [routeWrite id pipe]).bind fun _ ↦
      .ask (.note (powerNote id .on)) fun _ ↦ (switch id true).bind fun _ ↦ lightAll pipe rest

/-- What is done to an output that goes dark. -/
def darken (id : Id) : Hardware Unit :=
  .ask (.note (powerNote id .off)) fun _ ↦ switch id false

/-- What is done to an output that is lit. -/
def light (pipe : Pipe) (id : Id) : Hardware Unit :=
  (Hardware.writeAll [routeWrite id pipe]).bind fun _ ↦
    .ask (.note (powerNote id .on)) fun _ ↦ switch id true

/-- A program for several outputs does one thing to each of them, in order. -/
structure Each (one : Id → Hardware Unit) (all : List Id → Hardware Unit) : Prop where
  nil : all [] = .done ()
  cons : ∀ id rest, all (id :: rest) = (one id).bind fun _ ↦ all rest

theorem each_darkenAll : Each darken darkenAll where
  nil := rfl
  cons _ _ := rfl

theorem each_lightAll (pipe : Pipe) : Each (light pipe) (lightAll pipe) where
  nil := rfl
  cons id rest := by rw [lightAll, light, Program.bind_bind]; rfl

theorem Each.within {one : Id → Hardware Unit} {all : List Id → Hardware Unit}
    (heach : Each one all) {kind : Direct → Prop} {ids : List Id}
    (hone : ∀ id ∈ ids, (one id).IsWithin kind) : (all ids).IsWithin kind := by
  induction ids with
  | nil =>
    rw [heach.nil]
    exact .done ()
  | cons id rest ih =>
    rw [List.forall_mem_cons] at hone
    rw [heach.cons]
    exact .bind hone.1 fun _ ↦ ih hone.2

theorem darkenAll_within {kind : Direct → Prop} {ids : List Id}
    (hswitch : ∀ id ∈ ids, (switch id false).IsWithin kind) : (darkenAll ids).IsWithin kind :=
  each_darkenAll.within fun id hid ↦ .bind (Hardware.note_within _ _) fun _ ↦ hswitch id hid

theorem lightAll_within {kind : Direct → Prop} {ids : List Id} {pipe : Pipe}
    (hroute : ∀ id ∈ ids, kind (id.register .sourceSelect))
    (hswitch : ∀ id ∈ ids, (switch id true).IsWithin kind) :
    (lightAll pipe ids).IsWithin kind := by
  refine (each_lightAll pipe).within fun id hid ↦ ?_
  have hselect : (Hardware.writeAll [routeWrite id pipe]).IsWithin kind := by
    refine Hardware.writeAll_within ?_
    rw [List.forall_mem_singleton]
    exact hroute id hid
  exact .bind hselect fun _ ↦ .bind (Hardware.note_within _ _) fun _ ↦ hswitch id hid

namespace View

/-- The view of an output that was switched. -/
def switched (view : View) (on : Bool) : View :=
  { view with power := if on then .on else .off }

/-- The view of an output that was routed. -/
def routed (view : View) (pipe : Pipe) : View :=
  { view with source := some pipe }

theorem setPower_eq (view : View) (request : Dpms) :
    view.setPower request =
      .ask (.note (powerNote view.id request)) fun _ ↦
        (switch view.id request.isOn).bind fun _ ↦ .done (view.switched request.isOn) := rfl

theorem route_eq (view : View) (pipe : Pipe) :
    view.route pipe =
      (Hardware.writeAll [routeWrite view.id pipe]).bind fun _ ↦ .done (view.routed pipe) := rfl

theorem setPower_returns (view : View) (request : Dpms) :
    (view.setPower request).Returns fun changed ↦ changed = view.switched request.isOn :=
  .after _ fun _ ↦ .after _ fun _ ↦ .done rfl

theorem route_returns (view : View) (pipe : Pipe) :
    (view.route pipe).Returns fun changed ↦ changed = view.routed pipe :=
  .after _ fun _ ↦ .done rfl

end View

end Output

namespace Display

theorem output?_id {display : Display} {id : Output.Id} {view : Output.View}
    (hfound : display.output? id = some view) : view.id = id := by
  simpa using List.find?_some hfound

theorem output?_mem {display : Display} {id : Output.Id} {view : Output.View}
    (hfound : display.output? id = some view) : view ∈ display.outputs :=
  List.mem_of_find?_eq_some hfound

/-- There is an output of an identity when one is wired. -/
theorem exists_output_iff {display : Display} {id : Output.Id} :
    (∃ view, display.output? id = some view) ↔
      id ∈ (display.outputs.map Output.View.wiring).map Output.Wiring.id := by
  rw [← Option.isSome_iff_exists, output?, List.find?_isSome, List.map_map, List.mem_map]
  simp only [decide_eq_true_eq]
  rfl

/-- The view that is replaced is the one that was found. -/
theorem map_wiring_replaceOutput {views : List Output.View} {view changed : Output.View}
    (hfound : views.find? (fun other ↦ other.id = changed.id) = some view)
    (hwiring : changed.wiring = view.wiring) :
    (replaceOutput changed views).map Output.View.wiring =
      views.map Output.View.wiring := by
  induction views with
  | nil => rfl
  | cons first rest ih =>
    rw [replaceOutput]
    by_cases hid : first.id = changed.id
    · rw [List.find?_cons_of_pos (by simpa using hid)] at hfound
      cases hfound
      rw [if_pos hid, List.map_cons, List.map_cons, hwiring]
    · rw [List.find?_cons_of_neg (by simpa using hid)] at hfound
      rw [if_neg hid, List.map_cons, List.map_cons, ih hfound]

theorem mem_of_mem_replaceOutput {views : List Output.View} {view changed : Output.View}
    (hview : view ∈ replaceOutput changed views) : view ∈ views ∨ view = changed := by
  induction views with
  | nil => cases hview
  | cons first rest ih =>
    rw [replaceOutput] at hview
    split at hview
    · rcases List.mem_cons.mp hview with rfl | hrest
      · exact .inr rfl
      · exact .inl (List.mem_cons_of_mem _ hrest)
    · rcases List.mem_cons.mp hview with rfl | hrest
      · exact .inl List.mem_cons_self
      · exact (ih hrest).imp_left (List.mem_cons_of_mem _)

theorem mem_replaceOutput_of_ne {views : List Output.View} {view changed : Output.View}
    (hview : view ∈ views) (hid : view.id ≠ changed.id) : view ∈ replaceOutput changed views := by
  induction views with
  | nil => cases hview
  | cons first rest ih =>
    rw [replaceOutput]
    rcases List.mem_cons.mp hview with rfl | hrest
    · rw [if_neg hid]
      exact List.mem_cons_self
    · split
      · exact List.mem_cons_of_mem _ hrest
      · exact List.mem_cons_of_mem _ (ih hrest)

theorem mem_replaceOutput_self {views : List Output.View} {changed : Output.View}
    (hexists : ∃ view ∈ views, view.id = changed.id) : changed ∈ replaceOutput changed views := by
  induction views with
  | nil =>
    obtain ⟨_, hview, -⟩ := hexists
    cases hview
  | cons first rest ih =>
    rw [replaceOutput]
    split
    · exact List.mem_cons_self
    · rename_i hid
      obtain ⟨view, hview, heq⟩ := hexists
      rcases List.mem_cons.mp hview with rfl | hrest
      · exact absurd heq hid
      · exact List.mem_cons_of_mem _ (ih ⟨view, hrest, heq⟩)

/-- The cached state with another view of one output. -/
def withOutput (display : Display) (changed : Output.View) : Display :=
  { display with outputs := replaceOutput changed display.outputs }

theorem start_onOutput {display : Display} {id : Output.Id} {view : Output.View}
    (hfound : display.output? id = some view)
    (change : Output.View → Hardware Output.View) :
    (onOutput id change).start display =
      (change view).bind fun changed ↦ .done (.ok (), display.withOutput changed) := by
  simp only [onOutput, Action.start_get_bind, hfound, Action.start_lift_bind]
  rfl

section OnOutput

variable {υ : Type} {contract : Contract Access.signature υ} {id : Output.Id}
  {change : Output.View → Hardware Output.View}

/-- An output that exists is changed and put back, and nothing is done where there is none. -/
theorem meets_onOutput {post : Except (Failure Error) Unit × Display → υ → Prop}
    {display : Display} {hardware : υ}
    (hnone : post (.error (.error (.unknownOutput id)), display) hardware)
    (hsome : ∀ view, display.output? id = some view → (change view).Meets contract
      (fun changed left ↦ post (.ok (), display.withOutput changed) left) hardware) :
    ((onOutput id change).start display).Meets contract post hardware := by
  cases hfound : display.output? id with
  | none =>
    rw [onOutput, Action.start_get_bind, hfound]
    exact .done hnone
  | some view =>
    rw [start_onOutput hfound]
    exact (hsome view hfound).bind fun _ _ hleft ↦ .done hleft

theorem keeps_onOutput_of {invariant : Display → υ → Prop}
    (hchange : ∀ display hardware view, invariant display hardware →
      display.output? id = some view → (change view).Meets contract
        (fun changed left ↦ invariant (display.withOutput changed) left) hardware) :
    (onOutput id change).Keeps contract invariant :=
  fun display hardware hinvariant ↦ meets_onOutput hinvariant fun view hfound ↦
    hchange display hardware view hinvariant hfound

end OnOutput

/-- The same device and board with the same pipes, whatever is known of its outputs. -/
structure SameBoard (display other : Display) : Prop where
  device : other.device = display.device
  pipe : ∀ pipe, other.pipe pipe = display.pipe pipe
  saved : other.saved = display.saved
  wirings : other.outputs.map Output.View.wiring = display.outputs.map Output.View.wiring

namespace SameBoard

variable {display other : Display}

theorem withOutput (changed : Output.View) {id : Output.Id} {view : Output.View}
    (hfound : display.output? id = some view) (hwiring : changed.wiring = view.wiring) :
    display.SameBoard (display.withOutput changed) where
  device := rfl
  pipe pipe := by cases pipe <;> rfl
  saved := rfl
  wirings := by
    have hid : changed.id = id := by
      rw [← output?_id hfound, Output.View.id, Output.View.id, hwiring]
    exact map_wiring_replaceOutput (by rw [hid]; exact hfound) hwiring

/-- An output of the one is an output of the other. -/
theorem exists_output (hsame : display.SameBoard other) {id : Output.Id}
    (hexists : ∃ view, display.output? id = some view) :
    ∃ view, other.output? id = some view := by
  rw [exists_output_iff] at hexists ⊢
  rw [hsame.wirings]
  exact hexists

end SameBoard

/-- The cached state with some outputs changed. -/
def withEach (display : Display) (change : Output.View → Output.View) (ids : List Output.Id) :
    Display :=
  { display with outputs := Output.changeEach change ids display.outputs }

/-- The cached state once some outputs were switched off. -/
def dark (display : Display) (ids : List Output.Id) : Display :=
  display.withEach (fun view ↦ view.switched false) ids

/-- The cached state once some outputs were fed from a pipe and switched on. -/
def lit (display : Display) (pipe : Pipe) (ids : List Output.Id) : Display :=
  display.withEach (fun view ↦ (view.routed pipe).switched true) ids

theorem SameBoard.withEach {display : Display} (change : Output.View → Output.View)
    (hwiring : ∀ view, (change view).wiring = view.wiring) (ids : List Output.Id) :
    display.SameBoard (display.withEach change ids) where
  device := rfl
  pipe pipe := by cases pipe <;> rfl
  saved := rfl
  wirings := Output.map_wiring_changeEach change hwiring ids display.outputs

theorem sameBoard_dark (display : Display) (ids : List Output.Id) :
    display.SameBoard (display.dark ids) :=
  .withEach (fun view ↦ view.switched false) (fun _ ↦ rfl) ids

theorem sameBoard_lit (display : Display) (pipe : Pipe) (ids : List Output.Id) :
    display.SameBoard (display.lit pipe ids) :=
  .withEach (fun view ↦ (view.routed pipe).switched true) (fun _ ↦ rfl) ids

theorem output?_withEach (display : Display) (change : Output.View → Output.View)
    (hwiring : ∀ view, (change view).wiring = view.wiring)
    (hagain : ∀ view, change (change view) = change view) (ids : List Output.Id)
    (id : Output.Id) :
    (display.withEach change ids).output? id =
      (display.output? id).map fun view ↦ if id ∈ ids then change view else view :=
  Output.find?_changeEach change hwiring hagain ids id display.outputs

theorem output?_dark (display : Display) (ids : List Output.Id) (id : Output.Id) :
    (display.dark ids).output? id =
      (display.output? id).map fun view ↦ if id ∈ ids then view.switched false else view :=
  display.output?_withEach (fun view ↦ view.switched false) (fun _ ↦ rfl) (fun _ ↦ rfl) ids id

theorem output?_lit (display : Display) (pipe : Pipe) (ids : List Output.Id) (id : Output.Id) :
    (display.lit pipe ids).output? id = (display.output? id).map fun view ↦
      if id ∈ ids then (view.routed pipe).switched true else view :=
  display.output?_withEach (fun view ↦ (view.routed pipe).switched true) (fun _ ↦ rfl)
    (fun _ ↦ rfl) ids id

/-- The outputs that were not changed are as they were. -/
theorem filter_withEach (display : Display) (change : Output.View → Output.View)
    (hwiring : ∀ view, (change view).wiring = view.wiring) (ids : List Output.Id) :
    (display.withEach change ids).outputs.filter (fun view ↦ view.id ∉ ids) =
      display.outputs.filter fun view ↦ view.id ∉ ids :=
  Output.filter_changeEach change hwiring (fun id ↦ id ∉ ids) (fun id hid ↦ by simpa using hid)
    display.outputs

theorem filter_dark (display : Display) (ids : List Output.Id) :
    (display.dark ids).outputs.filter (fun view ↦ view.id ∉ ids) =
      display.outputs.filter fun view ↦ view.id ∉ ids :=
  display.filter_withEach (fun view ↦ view.switched false) (fun _ ↦ rfl) ids

theorem filter_lit (display : Display) (pipe : Pipe) (ids : List Output.Id) :
    (display.lit pipe ids).outputs.filter (fun view ↦ view.id ∉ ids) =
      display.outputs.filter fun view ↦ view.id ∉ ids :=
  display.filter_withEach (fun view ↦ (view.routed pipe).switched true) (fun _ ↦ rfl) ids

/-- What an identity stands for is the only view that is replaced by a view of that identity. -/
theorem replaceOutput_change {change : Output.View → Output.View}
    (hwiring : ∀ view, (change view).wiring = view.wiring) {views : List Output.View}
    {id : Output.Id} {view : Output.View}
    (hfound : views.find? (fun other ↦ other.id = id) = some view) :
    replaceOutput (change view) views = Output.changeFirst change id views := by
  have hid : (change view).id = id := by
    rw [Output.id_change change hwiring]
    simpa using List.find?_some hfound
  induction views with
  | nil => rfl
  | cons first rest ih =>
    rw [replaceOutput, Output.changeFirst, hid]
    by_cases hfirst : first.id = id
    · rw [List.find?_cons_of_pos (by simpa using hfirst)] at hfound
      cases hfound
      rw [if_pos hfirst, if_pos hfirst]
    · rw [List.find?_cons_of_neg (by simpa using hfirst)] at hfound
      rw [if_neg hfirst, if_neg hfirst, ih hfound]

theorem withEach_cons (change : Output.View → Output.View)
    (hwiring : ∀ view, (change view).wiring = view.wiring) {display : Display} {id : Output.Id}
    {view : Output.View} (hfound : display.output? id = some view) (rest : List Output.Id) :
    display.withEach change (id :: rest) =
      (display.withOutput (change view)).withEach change rest := by
  rw [withEach, withEach, withOutput, Output.changeEach, replaceOutput_change hwiring hfound]

/-- What changes the views of outputs that exist, and does one thing to each of them, does it to one
after another. -/
theorem start_each {one : Output.Id → Hardware Unit} {all : List Output.Id → Hardware Unit}
    (heach : Output.Each one all) (each : List Output.Id → Action Display Unit)
    (hnil : each [] = return) (change : Output.View → Output.View)
    (hwiring : ∀ view, (change view).wiring = view.wiring)
    (hcons : ∀ {display : Display} {id view} rest, display.output? id = some view →
      (each (id :: rest)).start display =
        (one id).bind fun _ ↦ (each rest).start (display.withOutput (change view)))
    {ids : List Output.Id} {display : Display}
    (hexist : ∀ id ∈ ids, ∃ view, display.output? id = some view) :
    (each ids).start display =
      (all ids).bind fun _ ↦ .done (.ok (), display.withEach change ids) := by
  induction ids generalizing display with
  | nil =>
    rw [hnil, heach.nil]
    rfl
  | cons id rest ih =>
    rw [List.forall_mem_cons] at hexist
    obtain ⟨⟨view, hview⟩, hrest⟩ := hexist
    have hsame := SameBoard.withOutput (change view) hview (hwiring view)
    rw [hcons rest hview, ih fun other hother ↦ hsame.exists_output (hrest other hother),
      heach.cons, Program.bind_bind, withEach_cons change hwiring hview]

/-- Outputs that exist are switched off one after another. -/
theorem start_switchOff {ids : List Output.Id} {display : Display}
    (hexist : ∀ id ∈ ids, ∃ view, display.output? id = some view) :
    (switchOff ids).start display =
      (Output.darkenAll ids).bind fun _ ↦ .done (.ok (), display.dark ids) := by
  refine start_each Output.each_darkenAll switchOff rfl (fun view ↦ view.switched false)
    (fun _ ↦ rfl) (fun rest hview ↦ ?_) hexist
  rw [switchOff, Action.start_bind, start_onOutput hview, Output.View.setPower_eq,
    output?_id hview]
  simp only [Program.ask_bind, Program.bind_bind, Program.done_bind, Action.follow_ok]
  rfl

/-- Outputs that exist are routed and switched on one after another. -/
theorem start_switchOn (pipe : Pipe) {ids : List Output.Id} {display : Display}
    (hexist : ∀ id ∈ ids, ∃ view, display.output? id = some view) :
    (switchOn pipe ids).start display =
      (Output.lightAll pipe ids).bind fun _ ↦ .done (.ok (), display.lit pipe ids) := by
  refine start_each (Output.each_lightAll pipe) (switchOn pipe) rfl
    (fun view ↦ (view.routed pipe).switched true) (fun _ ↦ rfl) (fun rest hview ↦ ?_) hexist
  obtain rfl := output?_id hview
  rw [switchOn, Action.start_bind, start_onOutput hview]
  simp only [Program.bind_eq, Output.View.route_eq, Output.View.setPower_eq, Program.ask_bind,
    Program.bind_bind, Program.done_bind, Action.follow_ok, Output.light]
  rfl

end Display

end Scanout
