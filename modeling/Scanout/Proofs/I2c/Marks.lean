import Scanout.Proofs.I2c.Connector

/-!
What a transfer of the hardware engine puts on the bus. A trace is projected to its marks: the
values that the stop register is given, the bytes that are queued and the bytes that are taken. A
transfer that succeeds shows the marks of its moves in order, and a pulse of the stop register only
at its end and, where the engine was found disabled, before them (`marks_of_exchange`).

What carries this through a transfer is that the engine is enabled once the first kick has begun,
so no kick after it sets the bus up again.
-/

set_option autoImplicit false
set_option relaxedAutoImplicit false

namespace Scanout

open Register

namespace I2c

/-- What a trace shows of the bus: the stop register is given a value, a byte is queued, or a byte
is taken. -/
inductive Mark where
  | stop (value : UInt32)
  | put (value : UInt32)
  | get
  deriving DecidableEq, Repr

/-- The mark of an event. -/
def mark? : Event → Option Mark
  | ⟨.write offset value, _⟩ =>
    if offset = i2cStop.offset then some (.stop value)
    else if offset = i2cData.offset then some (.put value)
    else none
  | ⟨.read offset, _⟩ => if offset = i2cData.offset then some .get else none
  | ⟨.delay _, _⟩ | ⟨.note _, _⟩ => none

/-- The marks of a trace. -/
def marks (events : List Event) : List Mark :=
  events.filterMap mark?

/-- A stop condition is pulsed. -/
def stopPulse : List Mark := [.stop 1, .stop 0]

/-- The marks that are due for a move. -/
def Move.marks : Move → List Mark
  | kick address _ bytes => (address.header .write ++ bytes).map fun byte ↦ .put byte.toUInt32
  | wait _ => []
  | turn address _ => [.put address.turnaround.toUInt32]
  | take count => List.replicate count .get

@[simp] theorem marks_nil : marks [] = [] := rfl

theorem marks_cons {event : Event} {mark : Mark} (hmark : mark? event = some mark)
    (rest : List Event) : marks (event :: rest) = mark :: marks rest :=
  List.filterMap_cons_some hmark

@[simp] theorem marks_append (early late : List Event) :
    marks (early ++ late) = marks early ++ marks late :=
  List.filterMap_append

/-- An update of another register leaves no mark. -/
theorem marks_update {register : Direct} (hstop : register ≠ i2cStop) (hdata : register ≠ i2cData)
    (clear set old : UInt32) : marks (Event.update register clear set old) = [] := by
  have hnostop : register.offset ≠ i2cStop.offset := fun heq ↦ hstop (congrArg Direct.mk heq)
  have hnodata : register.offset ≠ i2cData.offset := fun heq ↦ hdata (congrArg Direct.mk heq)
  simp [marks, mark?, Event.update, Event.read, Event.write, hnostop, hnodata]

theorem marks_stop : marks (Event.writes Controller.stopWrites) = stopPulse := by
  decide

theorem marks_queue (bytes : List UInt8) :
    marks (Event.writes (Controller.queueWrites bytes)) =
      bytes.map fun byte ↦ .put byte.toUInt32 := by
  have hput (byte : UInt8) :
      mark? (.write i2cData byte.toUInt32) = some (.put byte.toUInt32) := by
    simp +decide [mark?, Event.write]
  induction bytes with
  | nil => rfl
  | cons byte rest ih => rw [List.map_cons, ← ih, ← marks_cons (hput byte)]; rfl

theorem marks_taken (values : List UInt32) :
    marks (values.map (Event.read i2cData)) = List.replicate values.length .get := by
  induction values with
  | nil => rfl
  | cons value rest ih => rw [List.length_cons, List.replicate_succ, ← ih]; rfl

namespace Controller

theorem marks_polls {polls : List Event} (hpolls : ∀ event ∈ polls, IsPoll event) :
    marks polls = [] := by
  refine List.filterMap_eq_nil_iff.mpr fun event hevent ↦ ?_
  cases hpolls event hevent with
  | read status => rfl
  | delay microseconds => rfl

theorem marks_load (count : Nat) (bytes : List UInt8) (size acknowledge start : UInt32) :
    marks (load count bytes size acknowledge start) =
      bytes.map fun byte ↦ .put byte.toUInt32 := by
  have hlatch : marks [.read i2cAcknowledge acknowledge, .write i2cAcknowledge acknowledge] = [] :=
    rfl
  rw [load, marks_append, marks_append, marks_append, hlatch, marks_queue,
    marks_update (by decide) (by decide), marks_update (by decide) (by decide)]
  simp

theorem marks_turnaround (address : Address) (count : Nat) (size start : UInt32) :
    marks (turnaround address count size start) = (Move.turn address count).marks := by
  rw [turnaround, marks_append, marks_append, marks_queue,
    marks_update (by decide) (by decide), marks_update (by decide) (by decide)]
  rfl

variable {controller : Controller} {link left : Link} {events : List Event} {control : UInt32}

/-- Starting the bus pulses a stop where the engine is found disabled. -/
theorem marks_opens (hopens : controller.Opens events)
    (hcontrol : Remembers i2cControl control events) :
    marks events = if control &&& i2cEnabled = 0 then stopPulse else [] := by
  cases hopens with
  | @enabled found henabled start =>
    obtain rfl : found = control := (remembers_read_cons ..).mp hcontrol |>.1 rfl
    rw [if_neg henabled]
    rfl
  | @disabled found hdisabled again size start =>
    obtain rfl : found = control := (remembers_read_cons ..).mp hcontrol |>.1 rfl
    rw [if_pos hdisabled]
    rfl

/-- Once the bus was started, the engine is enabled. -/
theorem enabled_of_opens (hopens : controller.Opens events)
    (hcontrol : Remembers i2cControl control events) :
    recalled i2cControl control events &&& i2cEnabled ≠ 0 := by
  cases hopens with
  | @enabled found henabled start =>
    obtain rfl : found = control := (remembers_read_cons ..).mp hcontrol |>.1 rfl
    simpa [Event.update, show i2cStart ≠ i2cControl by decide] using henabled
  | @disabled found hdisabled again size start =>
    simpa +decide [setup, Event.update, Event.writes, stopWrites] using enabled_set again

/-- The events show a script to the bus of an enabled engine, and leave the engine enabled. -/
def Performs (script : List Mark) (events : List Event) : Prop :=
  ∀ control, control &&& i2cEnabled ≠ 0 → Remembers i2cControl control events →
    marks events = script ∧ recalled i2cControl control events &&& i2cEnabled ≠ 0

namespace Performs

theorem append {first second : List Mark} {early late : List Event}
    (hearly : Performs first early) (hlate : Performs second late) :
    Performs (first ++ second) (early ++ late) := by
  intro control henabled hcontrol
  rw [remembers_append] at hcontrol
  obtain ⟨hfirst, hmiddle⟩ := hearly control henabled hcontrol.1
  obtain ⟨hsecond, hleft⟩ := hlate _ hmiddle hcontrol.2
  rw [marks_append, hfirst, hsecond, recalled_append]
  exact ⟨rfl, hleft⟩

/-- What does not write the control register leaves the engine enabled. -/
theorem of_staysIn {registers : List Direct} {events : List Event}
    (hevents : StaysIn registers events) (hcontrol : i2cControl ∉ registers) :
    Performs (marks events) events := by
  intro control henabled _
  rw [recalled_of_unwritten i2cControl control fun event hevent word hwritten ↦
    hcontrol (hevents event hevent i2cControl word hwritten)]
  exact ⟨rfl, henabled⟩

/-- An enabled engine is started without a stop. -/
theorem opens (hopens : controller.Opens events) : Performs [] events := by
  intro control henabled hcontrol
  refine ⟨?_, enabled_of_opens hopens hcontrol⟩
  rw [marks_opens hopens hcontrol, if_neg henabled]

theorem load (count : Nat) (bytes : List UInt8) (size acknowledge start : UInt32) :
    Performs (bytes.map fun byte ↦ .put byte.toUInt32)
      (Controller.load count bytes size acknowledge start) := by
  rw [← marks_load count bytes size acknowledge start]
  exact of_staysIn (staysIn_load _ _ _ _ _) (by decide)

/-- A wait that is complete leaves no mark. -/
theorem complete {polls : List Event} (hpolls : ∀ event ∈ polls, IsPoll event) :
    Performs [] (pending :: polls ++ [Event.write i2cStatus i2cDone]) := by
  have hmarks : marks (pending :: polls ++ [Event.write i2cStatus i2cDone]) = [] := by
    have hends : marks [pending] = [] ∧ marks [Event.write i2cStatus i2cDone] = [] := by decide
    rw [marks_append, ← List.singleton_append, marks_append, marks_polls hpolls, hends.1, hends.2]
    rfl
  have hstatus : StaysIn [i2cStatus] ([pending] ++ polls ++ [Event.write i2cStatus i2cDone]) :=
    .append (.append (.write (by decide)) ((staysIn_polls hpolls).widen (by decide)))
      (.write (by decide))
  rw [← hmarks]
  exact of_staysIn hstatus (by decide)

theorem shows {move : Move} (hshows : controller.Shows link move events (.ok ()) left) :
    Performs move.marks events := by
  cases hshows with
  | kick hopens size acknowledge start => exact (opens hopens).append (load _ _ _ _ _)
  | complete hpolls => exact complete hpolls.polled
  | turn size start =>
    rw [← marks_turnaround _ _ size start]
    exact of_staysIn (staysIn_turnaround _ _ _ _) (by decide)
  | @take count values hlength =>
    rw [Move.marks, ← hlength, ← marks_taken]
    exact of_staysIn (staysIn_taken values) List.not_mem_nil

/-- The engine stays enabled from move to move, so none of them shows a stop. -/
theorem course {moves : List Move} (hcourse : controller.Course link moves events (.ok ()) left) :
    Performs (moves.flatMap Move.marks) events :=
  Course.of_dues Move.marks Performs (fun _ henabled _ ↦ ⟨rfl, henabled⟩) .append
    (fun _ _ _ _ _ hshows ↦ shows hshows) hcourse

end Performs

/-- What a transfer shows to the bus before its moves. -/
def prelude (control : UInt32) (moves : List Move) : List Mark :=
  if moves ≠ [] ∧ control &&& i2cEnabled = 0 then stopPulse else []

/-- The first kick sets a disabled engine up; from then on the engine is enabled. -/
theorem marks_of_course {address : Address} {count : Nat} {bytes : List UInt8} {rest : List Move}
    (hcourse : controller.Course link (.kick address count bytes :: rest) events (.ok ()) left)
    (hcontrol : Remembers i2cControl control events) :
    marks events = prelude control (.kick address count bytes :: rest) ++
      (.kick address count bytes :: rest).flatMap Move.marks := by
  cases hcourse with
  | next hmove hrest =>
    cases hmove with
    | @kick _ _ _ opening hopens size acknowledge start =>
      rw [List.append_assoc, remembers_append] at hcontrol
      obtain ⟨hmarks, -⟩ := (Performs.append (.load _ _ size acknowledge start) (.course hrest)) _
        (enabled_of_opens hopens hcontrol.1) hcontrol.2
      rw [List.append_assoc, marks_append, hmarks, marks_opens hopens hcontrol.1]
      simp [prelude, Move.marks]

/-- A transfer that succeeds shows the marks of its moves and then a stop. Before them there is a
stop only where the engine was disabled. -/
theorem marks_of_exchange {transfer : Transfer}
    (hplays : ((transfer.exchange controller).run.run link).Plays events (.ok (), left))
    (hcontrol : Remembers i2cControl control events) :
    let moves := transfer.moves controller.config.chunk
    marks events = prelude control moves ++ moves.flatMap Move.marks ++ stopPulse := by
  obtain ⟨course, middle, hcourse, rfl, -⟩ := plays_exchange hplays
  rw [remembers_append] at hcontrol
  rw [marks_append, marks_stop]
  refine congrArg (· ++ stopPulse) ?_
  obtain hnone | ⟨address, count, bytes, rest, hmoves⟩ :=
    transfer.kicking_moves controller.config.chunk
  · rw [hnone] at hcourse ⊢
    cases hcourse with
    | done => rfl
  · rw [hmoves] at hcourse ⊢
    exact marks_of_course hcourse hcontrol.1

end Controller

end I2c

end Scanout
