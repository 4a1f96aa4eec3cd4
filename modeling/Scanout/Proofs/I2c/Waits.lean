import Scanout.Proofs.I2c.Course

/-!
The waits of a transfer, as its events show them. Every wait begins by writing the status with the
one value that nothing else writes, so a trace falls apart into its waits; what the engine does
between them neither begins a wait nor reads the status (`IsQuiet`).
-/

set_option autoImplicit false
set_option relaxedAutoImplicit false

namespace Scanout

open Register

namespace I2c.Controller

/-- Every wait begins with this event. -/
def pending : Event :=
  .write i2cStatus i2cPending

/-- The statuses that are read up to the next wait. -/
def leading : List Event → List UInt32
  | [] => []
  | event :: rest => if event = pending then [] else (reading event).toList ++ leading rest

/-- The statuses that are read in each wait. -/
def waits : List Event → List (List UInt32)
  | [] => []
  | event :: rest => if event = pending then leading rest :: waits rest else waits rest

/-- The event neither begins a wait nor reads the status. -/
def IsQuiet (event : Event) : Prop :=
  event ≠ pending ∧ reading event = none

@[simp] theorem leading_pending (events : List Event) : leading (pending :: events) = [] := by
  rw [leading, if_pos rfl]

@[simp] theorem waits_pending (events : List Event) :
    waits (pending :: events) = leading events :: waits events := by
  rw [waits, if_pos rfl]

theorem leading_append (early : List Event) {late : List Event} (hlate : leading late = []) :
    leading (early ++ late) = leading early := by
  induction early with
  | nil => exact hlate
  | cons event rest ih => rw [List.cons_append, leading, leading, ih]

/-- Where no status is read before the next wait, the waits of two parts are those of each. -/
theorem waits_append (early : List Event) {late : List Event} (hlate : leading late = []) :
    waits (early ++ late) = waits early ++ waits late := by
  induction early with
  | nil => rfl
  | cons event rest ih =>
    rw [List.cons_append, waits, waits, ih, leading_append rest hlate]
    split
    · rfl
    · rfl

theorem quiet_append {early : List Event} (hearly : ∀ event ∈ early, IsQuiet event)
    (late : List Event) :
    leading (early ++ late) = leading late ∧ waits (early ++ late) = waits late := by
  induction early with
  | nil => exact ⟨rfl, rfl⟩
  | cons event rest ih =>
    rw [List.forall_mem_cons] at hearly
    obtain ⟨hleading, hwaits⟩ := ih hearly.2
    rw [List.cons_append, leading, waits, if_neg hearly.1.1, if_neg hearly.1.1, hearly.1.2,
      hleading, hwaits]
    exact ⟨rfl, rfl⟩

theorem quiet {events : List Event} (hevents : ∀ event ∈ events, IsQuiet event) :
    leading events = [] ∧ waits events = [] := by
  have happend := quiet_append hevents []
  rwa [List.append_nil] at happend

theorem polls_append {polls : List Event} (hpolls : ∀ event ∈ polls, IsPoll event)
    {late : List Event} (hlate : leading late = []) :
    leading (polls ++ late) = readings polls ∧ waits (polls ++ late) = waits late := by
  induction polls with
  | nil => exact ⟨hlate, rfl⟩
  | cons event rest ih =>
    rw [List.forall_mem_cons] at hpolls
    obtain ⟨hleading, hwaits⟩ := ih hpolls.2
    have hother : event ≠ pending := by
      rintro rfl
      cases hpolls.1
    rw [List.cons_append, leading, waits, if_neg hother, if_neg hother, hleading, hwaits]
    refine ⟨?_, rfl⟩
    rw [readings, readings, List.filterMap_cons]
    cases reading event with
    | none => rfl
    | some status => rfl

theorem isQuiet_read (register : Direct) (value : UInt32) :
    IsQuiet (.read register value) ↔ register ≠ i2cStatus := by
  have hother : Event.read register value ≠ pending := fun heq ↦ by
    simpa [pending] using congrArg Event.written heq
  simp [IsQuiet, reading, hother]

theorem isQuiet_write (register : Direct) (value : UInt32) :
    IsQuiet (.write register value) ↔ ¬(register = i2cStatus ∧ value = i2cPending) := by
  have hreading : reading (.write register value) = none := rfl
  rw [IsQuiet, pending, Ne, Event.write_inj, and_iff_left hreading]

theorem isQuiet_note (entry : Log.Entry) : IsQuiet (.note entry) :=
  ⟨fun heq ↦ by simpa [pending] using congrArg Event.written heq, rfl⟩

theorem quiet_stop : ∀ event ∈ Event.writes stopWrites, IsQuiet event := by
  simp only [Event.writes, stopWrites, List.map_cons, List.map_nil, List.forall_mem_cons,
    isQuiet_write, List.not_mem_nil, false_implies, implies_true, and_true]
  decide

theorem quiet_update {register : Direct} (hregister : register ≠ i2cStatus)
    (clear set old : UInt32) : ∀ event ∈ Event.update register clear set old, IsQuiet event :=
  List.forall_mem_cons.mpr ⟨(isQuiet_read _ _).mpr hregister, List.forall_mem_singleton.mpr
    ((isQuiet_write _ _).mpr fun heq ↦ hregister heq.1)⟩

theorem quiet_queue (bytes : List UInt8) :
    ∀ event ∈ Event.writes (queueWrites bytes), IsQuiet event := by
  intro event hevent
  obtain ⟨entry, hentry, rfl⟩ := List.mem_map.mp hevent
  obtain ⟨byte, -, rfl⟩ := List.mem_map.mp hentry
  have hdata : i2cData ≠ i2cStatus := by decide
  exact (isQuiet_write _ _).mpr fun heq ↦ hdata heq.1

theorem quiet_opens {controller : Controller} {events : List Event}
    (hopens : controller.Opens events) : ∀ event ∈ events, IsQuiet event := by
  have hread (control : UInt32) : IsQuiet (.read i2cControl control) :=
    (isQuiet_read _ _).mpr (by decide)
  have hstart (value : UInt32) : ∀ event ∈ [Event.write i2cStart value], IsQuiet event :=
    List.forall_mem_singleton.mpr ((isQuiet_write _ _).mpr fun heq ↦ absurd heq.1 (by decide))
  cases hopens with
  | enabled henabled start =>
    exact List.forall_mem_cons.mpr ⟨hread _, quiet_update (by decide) _ _ _⟩
  | disabled hdisabled again size start =>
    rw [List.cons_append, setup]
    refine List.forall_mem_cons.mpr ⟨hread _, ?_⟩
    simp only [List.forall_mem_append]
    exact ⟨⟨⟨⟨quiet_update (by decide) _ _ _, quiet_stop⟩, hstart _⟩,
      quiet_update (by decide) _ _ _⟩, quiet_update (by decide) _ _ _⟩

theorem quiet_load (count : Nat) (bytes : List UInt8) (size acknowledge start : UInt32) :
    ∀ event ∈ load count bytes size acknowledge start, IsQuiet event := by
  simp only [load, List.forall_mem_append, List.forall_mem_cons, List.not_mem_nil, false_implies,
    implies_true, and_true]
  exact ⟨⟨⟨quiet_update (by decide) _ _ _, (isQuiet_read _ _).mpr (by decide),
    (isQuiet_write _ _).mpr fun heq ↦ absurd heq.1 (by decide)⟩, quiet_queue bytes⟩,
      quiet_update (by decide) _ _ _⟩

theorem quiet_turnaround (address : Address) (count : Nat) (size start : UInt32) :
    ∀ event ∈ turnaround address count size start, IsQuiet event := by
  simp only [turnaround, List.forall_mem_append]
  exact ⟨⟨quiet_queue _, quiet_update (by decide) _ _ _⟩, quiet_update (by decide) _ _ _⟩

theorem quiet_taken (values : List UInt32) :
    ∀ event ∈ values.map (Event.read i2cData), IsQuiet event := by
  intro event hevent
  obtain ⟨value, -, rfl⟩ := List.mem_map.mp hevent
  exact (isQuiet_read _ _).mpr (by decide)

theorem quiet_giveUp (entry : Log.Entry) (control : UInt32) :
    ∀ event ∈ giveUp entry control, IsQuiet event := by
  simp only [giveUp, List.cons_append, List.forall_mem_cons, List.forall_mem_append]
  exact ⟨isQuiet_note entry, quiet_stop, quiet_update (by decide) _ _ _⟩

section Waiting

variable {controller : Controller} {link left : Link} {events : List Event}

/-- A move that succeeds shows one complete wait if it waits at all, and none otherwise. -/
theorem Shows.waits_ok {move : Move} (hshows : controller.Shows link move events (.ok ()) left) :
    leading events = [] ∧ (waits events).length = move.awaited.toList.length ∧
      ∀ statuses ∈ waits events, verdict controller.config statuses = .complete ∧
        IsPatient controller.config := by
  have hnone {events : List Event} (hquiet : ∀ event ∈ events, IsQuiet event) :
      leading events = [] ∧ (waits events).length = 0 ∧
        ∀ statuses ∈ waits events, verdict controller.config statuses = .complete ∧
          IsPatient controller.config := by
    obtain ⟨hleading, hwaits⟩ := quiet hquiet
    rw [hwaits]
    exact ⟨hleading, rfl, fun _ hmem ↦ absurd hmem List.not_mem_nil⟩
  cases hshows with
  | kick hopens size acknowledge start =>
    exact hnone (List.forall_mem_append.mpr ⟨quiet_opens hopens, quiet_load _ _ _ _ _⟩)
  | turn size start => exact hnone (quiet_turnaround _ _ _ _)
  | take hlength => exact hnone (quiet_taken _)
  | @complete _ polls hpolls =>
    have hdone : ∀ event ∈ [Event.write i2cStatus i2cDone], IsQuiet event :=
      List.forall_mem_singleton.mpr ((isQuiet_write _ _).mpr (by decide))
    obtain ⟨hleading, hwaits⟩ := polls_append hpolls.polled (quiet hdone).1
    have hverdict : verdict controller.config (readings polls) = .complete := hpolls.verdict.symm
    rw [show Event.write i2cStatus i2cPending = pending from rfl, List.cons_append, leading_pending,
      waits_pending, hleading, hwaits, (quiet hdone).2]
    exact ⟨rfl, rfl, List.forall_mem_singleton.mpr
      ⟨hverdict, isPatient_of_complete hverdict hpolls.bounded⟩⟩

/-- The waits of moves that succeed are complete, one for each slave that is waited for. -/
theorem Course.waits_ok {moves : List Move}
    (hcourse : controller.Course link moves events (.ok ()) left) :
    leading events = [] ∧ (waits events).length = (moves.filterMap Move.awaited).length ∧
      ∀ statuses ∈ waits events, verdict controller.config statuses = .complete ∧
        IsPatient controller.config := by
  induction moves generalizing link events with
  | nil =>
    cases hcourse with
    | done => exact ⟨rfl, rfl, fun _ hmem ↦ absurd hmem List.not_mem_nil⟩
  | cons move rest ih =>
    cases hcourse with
    | next hmove hrest =>
      obtain ⟨hleading, hlength, hcomplete⟩ := hmove.waits_ok
      obtain ⟨hleading', hlength', hcomplete'⟩ := ih hrest
      rw [leading_append _ hleading', waits_append _ hleading']
      refine ⟨hleading, ?_, List.forall_mem_append.mpr ⟨hcomplete, hcomplete'⟩⟩
      rw [List.length_append, hlength, hlength', List.filterMap_cons]
      cases move.awaited with
      | none => exact Nat.zero_add _
      | some address => exact Nat.add_comm _ _

/-- A wait that fails is one wait, and incomplete. -/
theorem waits_failed {polls : List Event} {out : Verdict} {cause : Error} {address : Address}
    (hpolls : Waits controller.config polls out)
    (hcause : out.cause? controller.config address = some cause) {late : List Event}
    (hlate : ∀ event ∈ late, IsQuiet event) :
    waits (pending :: polls ++ late) = [readings polls] ∧
      verdict controller.config (readings polls) = out ∧ out ≠ .complete := by
  obtain ⟨hleading, hwaits⟩ := polls_append hpolls.polled (quiet hlate).1
  refine ⟨?_, hpolls.verdict.symm, ?_⟩
  · rw [List.cons_append, waits_pending, hleading, hwaits, (quiet hlate).2]
  · rintro rfl
    cases hcause

end Waiting

end I2c.Controller

end Scanout
