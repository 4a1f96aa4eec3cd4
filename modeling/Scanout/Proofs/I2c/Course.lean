import Scanout.Proofs.I2c.Move
import Scanout.Proofs.I2c.Polling
import Scanout.Proofs.Program.Plays

/-!
What a transfer of the hardware engine looks like from the registers. `Controller.Shows` lists the
events of each move with everything that was read left open, and `Controller.Course` strings them
together: moves succeed up to the one that fails, if there is one. Every play of a transfer is the
course of its moves and then a stop (`plays_exchange`), so what holds of all courses holds of every
transfer, whatever the registers answer.
-/

set_option autoImplicit false
set_option relaxedAutoImplicit false

namespace Scanout

open Register

namespace I2c.Controller

/-- The writes of a stop. -/
def stopWrites : List (Direct × UInt32) :=
  [(i2cStatus, i2cDone ||| i2cNack ||| i2cHalt), (i2cStop, 1), (i2cStop, 0)]

/-- Bytes that are queued, as writes. -/
def queueWrites (bytes : List UInt8) : List (Direct × UInt32) :=
  bytes.map fun byte ↦ (i2cData, byte.toUInt32)

/-- The number of bytes in its place of the size register. -/
def countBits (count : Nat) : UInt32 :=
  (count.toUInt32 <<< i2cCountShift) &&& i2cCountMask

/-- The events in which a disabled engine is set up for its connector. -/
def setup (controller : Controller) (control size : UInt32) : List Event :=
  Event.update i2cControl 0 i2cEnabled control ++ Event.writes stopWrites ++
    [Event.write i2cStart (i2cKick ||| controller.connectorBits)] ++
      Event.update i2cSize i2cPrescaleMask 1 size

/-- The events in which the bus is started: an engine that is found disabled is set up first. -/
inductive Opens (controller : Controller) : List Event → Prop
  | enabled {control : UInt32} (henabled : control &&& i2cEnabled ≠ 0) (start : UInt32) :
      Opens controller (Event.read i2cControl control :: Event.update i2cStart 0 i2cKick start)
  | disabled {control : UInt32} (hdisabled : control &&& i2cEnabled = 0)
      (again size start : UInt32) :
      Opens controller (Event.read i2cControl control :: controller.setup again size ++
        Event.update i2cStart 0 i2cKick start)

/-- The events from a start to its kick. -/
def load (count : Nat) (bytes : List UInt8) (size acknowledge start : UInt32) : List Event :=
  Event.update i2cSize i2cCountMask (countBits count) size ++
    [Event.read i2cAcknowledge acknowledge, Event.write i2cAcknowledge acknowledge] ++
      Event.writes (queueWrites bytes) ++
        Event.update i2cStart i2cCommandMask (i2cDone ||| i2cNack) start

/-- The events in which the bus is turned around. -/
def turnaround (address : Address) (count : Nat) (size start : UInt32) : List Event :=
  Event.writes (queueWrites [address.turnaround]) ++
    Event.update i2cSize i2cCountMask (countBits count) size ++
      Event.update i2cStart i2cCommandMask (i2cDone ||| i2cNack ||| i2cHalt) start

/-- The events in which a transfer is given up. -/
def giveUp (entry : Log.Entry) (control : UInt32) : List Event :=
  Event.note entry :: Event.writes stopWrites ++ Event.update i2cControl 0 i2cReset control

/-- The events that polling may consist of, with the verdict that they come to. -/
def Waits (config : Config.Controller) (polls : List Event) (out : Verdict) : Prop :=
  Decides config [] config.pollLimit.toNat polls out

/-- How a wait ends behind its polls: with the status cleared where it is complete, and given up
where it is not. -/
inductive Settles (controller : Controller) (link : Link) (address : Address) :
    Verdict → List Event → List Event → Except Error Unit → Link → Prop
  | complete (polls : List Event) :
      Settles controller link address .complete polls
        (Event.write i2cStatus i2cPending :: polls ++ [Event.write i2cStatus i2cDone]) (.ok ()) link
  | abandoned (polls : List Event) {out : Verdict} {cause : Error}
      (hcause : out.cause? controller.config address = some cause)
      (entry : Log.Entry) (control : UInt32) :
      Settles controller link address out polls
        (Event.write i2cStatus i2cPending :: polls ++ giveUp entry control)
        (.error cause) { link with started := false }

/-- What a move may show on a link, and how it may end. -/
inductive Shows (controller : Controller) (link : Link) :
    Move → List Event → Except Error Unit → Link → Prop
  | kick {address : Address} {count : Nat} {bytes : List UInt8} {opening : List Event}
      (hopens : controller.Opens opening) (size acknowledge start : UInt32) :
      Shows controller link (.kick address count bytes)
        (opening ++ load count (address.header .write ++ bytes) size acknowledge start)
        (.ok ()) { link with started := true }
  | complete {address : Address} {polls : List Event}
      (hpolls : Waits controller.config polls .complete) :
      Shows controller link (.wait address)
        (Event.write i2cStatus i2cPending :: polls ++ [Event.write i2cStatus i2cDone]) (.ok ()) link
  | failed {address : Address} {polls : List Event} {out : Verdict} {cause : Error}
      (hpolls : Waits controller.config polls out)
      (hcause : out.cause? controller.config address = some cause)
      (entry : Log.Entry) (control : UInt32) :
      Shows controller link (.wait address)
        (Event.write i2cStatus i2cPending :: polls ++ giveUp entry control)
        (.error cause) { link with started := false }
  | turn {address : Address} {count : Nat} (size start : UInt32) :
      Shows controller link (.turn address count) (turnaround address count size start)
        (.ok ()) link
  | take {count : Nat} {values : List UInt32} (hlength : values.length = count) :
      Shows controller link (.take count) (values.map (Event.read i2cData)) (.ok ())
        { link with received := link.received ++ values.map UInt32.toUInt8 }

/-- What some moves may show one after the other, up to one that fails. -/
inductive Course (controller : Controller) :
    Link → List Move → List Event → Except Error Unit → Link → Prop
  | done {link : Link} : Course controller link [] [] (.ok ()) link
  | next {link middle left : Link} {move : Move} {rest : List Move} {early late : List Event}
      {result : Except Error Unit} (hmove : controller.Shows link move early (.ok ()) middle)
      (hrest : Course controller middle rest late result left) :
      Course controller link (move :: rest) (early ++ late) result left
  | failed {link left : Link} {move : Move} {rest : List Move} {events : List Event}
      {cause : Error} (hmove : controller.Shows link move events (.error cause) left) :
      Course controller link (move :: rest) events (.error cause) left

theorem plays_stop (link : Link) (events : List Event) (out : Unit × Link) :
    (stop.run link).Plays events out ↔
      events = Event.writes stopWrites ∧ out = ((), { link with started := false }) := by
  simp only [stop, plays_step_bind, plays_step_lift, plays_step_modify, Hardware.plays_write]
  constructor
  · rintro ⟨_, _, _, _, rfl, ⟨rfl, rfl⟩, _, _, _, _, rfl, ⟨rfl, rfl⟩, _, _, _, _, rfl, ⟨rfl, rfl⟩,
      rfl, rfl⟩
    exact ⟨rfl, rfl⟩
  · rintro ⟨rfl, rfl⟩
    exact ⟨[_], _, (), link, rfl, ⟨rfl, rfl⟩, [_], _, (), link, rfl, ⟨rfl, rfl⟩, [_], [], (), link,
      rfl, ⟨rfl, rfl⟩, rfl, rfl⟩

section Moves

variable {controller : Controller} {link : Link} {events : List Event}

theorem plays_start {out : Unit × Link} (hplays : (controller.start.run link).Plays events out) :
    controller.Opens events ∧ out.2 = { link with started := true } := by
  unfold start at hplays
  rw [plays_step_bind] at hplays
  obtain ⟨_, late, control, _, rfl, hread, hrest⟩ := hplays
  simp only [plays_step_lift, Hardware.plays_read] at hread
  obtain ⟨rfl, rfl⟩ := hread
  dsimp only at hrest
  split at hrest
  · rename_i hdisabled
    simp only [plays_step_bind, plays_step_lift, plays_step_modify, Hardware.plays_update,
      Hardware.plays_write, plays_stop, Prod.mk.injEq] at hrest
    obtain ⟨_, _, _, _, rfl, ⟨⟨again, rfl⟩, rfl⟩, _, _, _, _, rfl, ⟨rfl, -, rfl⟩, _, _, _, _, rfl,
      ⟨rfl, rfl⟩, _, _, _, _, rfl, ⟨⟨size, rfl⟩, rfl⟩, _, _, _, _, rfl, ⟨⟨start, rfl⟩, rfl⟩, rfl,
      rfl⟩ := hrest
    exact ⟨.disabled hdisabled again size start, rfl⟩
  · rename_i henabled
    simp only [plays_step_bind, plays_step_lift, plays_step_modify, Hardware.plays_update] at hrest
    obtain ⟨_, _, _, _, rfl, ⟨⟨start, rfl⟩, rfl⟩, rfl, rfl⟩ := hrest
    exact ⟨.enabled henabled start, rfl⟩

theorem plays_queue (bytes : List UInt8) (events : List Event) (out : Unit) :
    (queue bytes).Plays events out ↔ events = Event.writes (queueWrites bytes) := by
  induction bytes generalizing events with
  | nil =>
    rw [queue, Program.pure_eq, Program.plays_done]
    simp [queueWrites, Event.writes]
  | cons byte rest ih =>
    simp only [queue, Program.bind_eq, Program.plays_bind, Hardware.plays_write, ih]
    constructor
    · rintro ⟨_, _, _, rfl, rfl, rfl⟩
      rfl
    · rintro rfl
      exact ⟨[_], _, (), rfl, rfl, rfl⟩

theorem plays_take {count : Nat} {bytes : List UInt8} (hplays : (take count).Plays events bytes) :
    ∃ values : List UInt32, values.length = count ∧ events = values.map (Event.read i2cData) ∧
      bytes = values.map UInt32.toUInt8 := by
  induction count generalizing events bytes with
  | zero =>
    obtain ⟨rfl, rfl⟩ := (Program.plays_done _ _ _).mp hplays
    exact ⟨[], rfl, rfl, rfl⟩
  | succ count ih =>
    simp only [take, Program.bind_eq, Program.pure_eq, Program.plays_bind, Hardware.plays_read,
      Program.plays_done] at hplays
    obtain ⟨_, _, value, rfl, rfl, _, _, rest, rfl, hrest, rfl, rfl⟩ := hplays
    obtain ⟨values, rfl, rfl, rfl⟩ := ih hrest
    exact ⟨value :: values, rfl, by simp, rfl⟩

theorem plays_latchAcknowledge {out : Unit} (hplays : latchAcknowledge.Plays events out) :
    ∃ acknowledge, events =
      [Event.read i2cAcknowledge acknowledge, Event.write i2cAcknowledge acknowledge] := by
  simp only [latchAcknowledge, Program.bind_eq, Program.plays_bind, Hardware.plays_read,
    Hardware.plays_write] at hplays
  obtain ⟨_, _, acknowledge, rfl, rfl, rfl⟩ := hplays
  exact ⟨acknowledge, rfl⟩

theorem plays_abandon {cause : Error} {text : String} {out : Except Error Unit × Link}
    (hplays : ((abandon cause text).run.run link).Plays events out) :
    ∃ entry control, events = giveUp entry control ∧
      out = (.error cause, { link with started := false }) := by
  obtain ⟨result, left⟩ := out
  unfold abandon reset at hplays
  simp only [plays_exchange_lift_bind, plays_exchange_step_bind, plays_exchange_throw,
    plays_step_bind, plays_step_lift, plays_stop, Hardware.plays_note, Hardware.plays_update,
    Prod.mk.injEq] at hplays
  obtain ⟨_, _, _, rfl, rfl, _, _, _, _, rfl, ⟨_, _, _, _, rfl, ⟨rfl, -, rfl⟩, ⟨control, rfl⟩, rfl⟩,
    rfl, rfl, rfl⟩ := hplays
  exact ⟨{ level := .warn, text }, control, by simp [giveUp], rfl⟩

theorem plays_kick {address : Address} {count : Nat} {bytes : List UInt8} {out : Unit × Link}
    (hplays : ((controller.kick address count bytes).run link).Plays events out) :
    ∃ opening size acknowledge start, controller.Opens opening ∧
      events = opening ++ load count (address.header .write ++ bytes) size acknowledge start ∧
        out.2 = { link with started := true } := by
  unfold kick setCount go at hplays
  simp only [plays_step_bind, plays_step_lift, Hardware.plays_update, plays_queue] at hplays
  obtain ⟨opening, _, _, _, rfl, hstart, _, _, _, _, rfl, ⟨⟨size, rfl⟩, rfl⟩, _, _, _, _, rfl,
    ⟨hlatch, rfl⟩, _, _, _, _, rfl, ⟨rfl, rfl⟩, _, _, _, _, rfl, ⟨rfl, rfl⟩, ⟨start, rfl⟩, hleft⟩ :=
      hplays
  obtain ⟨hopens, hmiddle⟩ := plays_start hstart
  obtain ⟨acknowledge, rfl⟩ := plays_latchAcknowledge hlatch
  refine ⟨opening, size, acknowledge, start, hopens, ?_, hleft.trans hmiddle⟩
  simp [load, countBits, queueWrites, Event.writes]

/-- A wait polls until there is a verdict and ends by it. -/
theorem plays_wait_polls {address : Address} {result : Except Error Unit} {left : Link}
    (hplays : ((controller.wait address).run.run link).Plays events (result, left)) :
    ∃ polls out, (poll controller.config controller.config.pollLimit.toNat 0 0).Plays polls out ∧
      controller.Settles link address out polls events result left := by
  unfold wait at hplays
  simp only [plays_exchange_lift_bind, Hardware.plays_write] at hplays
  obtain ⟨_, _, _, rfl, rfl, polls, late, out, rfl, hpoll, hrest⟩ := hplays
  refine ⟨polls, out, hpoll, ?_⟩
  cases hout : out with
  | complete =>
    rw [hout] at hrest
    simp only [plays_exchange_lift, Hardware.plays_write] at hrest
    obtain ⟨_, rfl, rfl, rfl⟩ := hrest
    exact .complete polls
  | refused | unexpected status | undecided =>
    rw [hout] at hrest
    obtain ⟨entry, control, rfl, heq⟩ := plays_abandon hrest
    cases heq
    exact .abandoned polls rfl entry control

theorem plays_wait {address : Address} {result : Except Error Unit} {left : Link}
    (hplays : ((controller.wait address).run.run link).Plays events (result, left)) :
    controller.Shows link (.wait address) events result left := by
  obtain ⟨polls, out, hpoll, hsettles⟩ := plays_wait_polls hplays
  have hpolls : Waits controller.config polls out := poll_decides _ (.start _) hpoll
  cases hsettles with
  | complete => exact .complete hpolls
  | abandoned _ hcause entry control => exact .failed hpolls hcause entry control

theorem plays_turn {address : Address} {count : Nat} {out : Except Error Unit × Link}
    (hplays : ((controller.move (.turn address count)).run.run link).Plays events out) :
    ∃ size start, events = turnaround address count size start ∧ out = (.ok (), link) := by
  obtain ⟨result, left⟩ := out
  simp only [move, setCount, go, plays_exchange_lift_bind, plays_exchange_lift, plays_queue,
    Hardware.plays_update] at hplays
  obtain ⟨_, _, _, rfl, rfl, _, _, _, rfl, ⟨size, rfl⟩, _, ⟨start, rfl⟩, rfl, rfl⟩ := hplays
  exact ⟨size, start, by simp [turnaround, countBits], rfl⟩

/-- What a move plays, it shows. -/
theorem plays_move {move : Move} {result : Except Error Unit} {left : Link}
    (hplays : ((controller.move move).run.run link).Plays events (result, left)) :
    controller.Shows link move events result left := by
  cases move with
  | kick address count bytes =>
    obtain ⟨_, hkick, rfl⟩ := (plays_exchange_step _ _ _).mp hplays
    obtain ⟨opening, size, acknowledge, start, hopens, rfl, rfl⟩ := plays_kick hkick
    exact .kick hopens size acknowledge start
  | wait address => exact plays_wait hplays
  | turn address count =>
    obtain ⟨size, start, rfl, heq⟩ := plays_turn hplays
    cases heq
    exact .turn size start
  | take count =>
    simp only [Controller.move, plays_exchange_lift_bind] at hplays
    obtain ⟨_, _, _, rfl, htake, hmodify⟩ := hplays
    obtain ⟨values, hlength, rfl, rfl⟩ := plays_take htake
    obtain ⟨_, hchange, rfl⟩ := (plays_exchange_step _ _ _).mp hmodify
    obtain ⟨rfl, heq⟩ := (plays_step_modify _ _).mp hchange
    cases heq
    rw [List.append_nil]
    exact .take hlength

/-- The moves run their course, one after the other. -/
theorem plays_follow {moves : List Move} {result : Except Error Unit} {left : Link}
    (hplays : ((controller.follow moves).run.run link).Plays events (result, left)) :
    controller.Course link moves events result left := by
  induction moves generalizing link events with
  | nil =>
    obtain ⟨rfl, heq⟩ := (plays_step_pure _ _).mp hplays
    cases heq
    exact .done
  | cons move rest ih =>
    rw [follow, plays_exchange_bind] at hplays
    obtain ⟨early, late, _, middle, rfl, hmove, hrest⟩ | ⟨cause, hmove, rfl⟩ := hplays
    · exact .next (plays_move hmove) (ih hrest)
    · exact .failed (plays_move hmove)

/-- What is closed ends as it would have, and stops. -/
theorem plays_closed (exchange : Exchange Unit) (result : Except Error Unit) (left : Link) :
    ((closed exchange).run.run link).Plays events (result, left) ↔
      ∃ course middle, (exchange.run.run link).Plays course (result, middle) ∧
        events = course ++ Event.writes stopWrites ∧ left = { middle with started := false } := by
  simp only [closed, ExceptT.run_mk, plays_step_bind, plays_stop, plays_step_pure, Prod.mk.injEq]
  constructor
  · rintro ⟨course, _, _, middle, rfl, hcourse, _, _, _, _, rfl, ⟨rfl, -, rfl⟩, rfl, rfl, rfl⟩
    exact ⟨course, middle, hcourse, by simp, rfl⟩
  · rintro ⟨course, middle, hcourse, rfl, rfl⟩
    exact ⟨course, _, result, middle, rfl, hcourse, _, [], (), _, (List.append_nil _).symm,
      ⟨rfl, trivial, rfl⟩, rfl, rfl, rfl⟩

/-- A transfer runs the course of its moves, and then stops. -/
theorem plays_exchange {transfer : Transfer} {result : Except Error Unit} {left : Link}
    (hplays : ((transfer.exchange controller).run.run link).Plays events (result, left)) :
    ∃ course middle, controller.Course link (transfer.moves controller.config.chunk) course result
        middle ∧
      events = course ++ Event.writes stopWrites ∧ left = { middle with started := false } := by
  rw [transfer.exchange_eq, plays_closed] at hplays
  obtain ⟨course, middle, hcourse, hends⟩ := hplays
  exact ⟨course, middle, plays_follow hcourse, hends⟩

/-- What the events of every move are, and is not left one after the other, a course is. -/
theorem Course.of_shows (kind : List Event → Prop) (hnil : kind [])
    (happend : ∀ {early late}, kind early → kind late → kind (early ++ late))
    (hshows : ∀ {link move events result left},
      controller.Shows link move events result left → kind events)
    {moves : List Move} {result : Except Error Unit} {left : Link}
    (hcourse : controller.Course link moves events result left) : kind events := by
  induction hcourse with
  | done => exact hnil
  | next hmove _ ih => exact happend (hshows hmove) ih
  | failed hmove => exact hshows hmove

/-- A course that succeeds fits what is due for its moves if each of them does. -/
theorem Course.of_dues {α : Type} (due : Move → List α) (fits : List α → List Event → Prop)
    (hnil : fits [] [])
    (happend : ∀ {first second early late}, fits first early → fits second late →
      fits (first ++ second) (early ++ late))
    {moves : List Move} (hshows : ∀ move ∈ moves, ∀ link events left,
      controller.Shows link move events (.ok ()) left → fits (due move) events)
    {left : Link} (hcourse : controller.Course link moves events (.ok ()) left) :
    fits (moves.flatMap due) events := by
  induction moves generalizing link events with
  | nil =>
    cases hcourse with
    | done => exact hnil
  | cons move rest ih =>
    rw [List.forall_mem_cons] at hshows
    cases hcourse with
    | next hmove hrest => exact happend (hshows.1 _ _ _ hmove) (ih hshows.2 hrest)

end Moves

/-!
What the parts of a transfer write.
-/

/-- The registers of the engine. -/
def engineRegisters : List Direct :=
  [i2cStatus, i2cStop, i2cStart, i2cSize, i2cAcknowledge, i2cData, i2cControl]

section Written

theorem staysIn_stop : StaysIn [i2cStatus, i2cStop] (Event.writes stopWrites) :=
  .writes (by decide)

theorem staysIn_queue (bytes : List UInt8) :
    StaysIn [i2cData] (Event.writes (queueWrites bytes)) := by
  refine .writes fun entry hentry ↦ ?_
  obtain ⟨byte, -, rfl⟩ := List.mem_map.mp hentry
  exact List.mem_singleton_self _

theorem staysIn_polls {events : List Event} (hevents : ∀ event ∈ events, IsPoll event) :
    StaysIn [] events := by
  refine .of_silent fun event hevent ↦ ?_
  cases hevents event hevent with
  | read status => rfl
  | delay microseconds => rfl

theorem staysIn_taken (values : List UInt32) : StaysIn [] (values.map (Event.read i2cData)) := by
  refine .of_silent fun event hevent ↦ ?_
  obtain ⟨value, -, rfl⟩ := List.mem_map.mp hevent
  rfl

theorem staysIn_opens {controller : Controller} {events : List Event}
    (hopens : controller.Opens events) :
    StaysIn [i2cStatus, i2cStop, i2cStart, i2cSize, i2cControl] events := by
  cases hopens with
  | enabled _ start => exact (OnlyWrites.read _ _).append (.update (by decide))
  | disabled _ again size start =>
    refine .append (.append (.read _ _) ?_) (.update (by decide))
    exact .append (.append (.append (.update (by decide)) (staysIn_stop.widen (by decide)))
      (.write (by decide))) (.update (by decide))

/-- Up to its kick, a transaction writes none of the registers that stop, or that enable. -/
theorem staysIn_load (count : Nat) (bytes : List UInt8) (size acknowledge start : UInt32) :
    StaysIn [i2cStart, i2cSize, i2cAcknowledge, i2cData]
      (load count bytes size acknowledge start) := by
  refine .append (.append (.append (.update (by decide)) ?_)
    ((staysIn_queue bytes).widen (by decide))) (.update (by decide))
  exact (OnlyWrites.read _ _).append (.write (by decide))

theorem staysIn_turnaround (address : Address) (count : Nat) (size start : UInt32) :
    StaysIn [i2cStart, i2cSize, i2cData] (turnaround address count size start) :=
  .append (.append ((staysIn_queue _).widen (by decide)) (.update (by decide)))
    (.update (by decide))

theorem staysIn_giveUp (entry : Log.Entry) (control : UInt32) :
    StaysIn [i2cStatus, i2cStop, i2cControl] (giveUp entry control) :=
  have hnote : StaysIn [i2cStatus, i2cStop, i2cControl] [Event.note entry] := .of_silent (by simp)
  (hnote.append (staysIn_stop.widen (by decide))).append (.update (by decide))

variable {controller : Controller} {link left : Link} {events : List Event}
  {result : Except Error Unit}

theorem staysIn_shows {move : Move} (hshows : controller.Shows link move events result left) :
    StaysIn engineRegisters events := by
  have hpending : StaysIn engineRegisters [Event.write i2cStatus i2cPending] := .write (by decide)
  cases hshows with
  | kick hopens size acknowledge start =>
    exact ((staysIn_opens hopens).widen (by decide)).append
      ((staysIn_load _ _ _ _ _).widen (by decide))
  | complete hpolls =>
    exact (hpending.append ((staysIn_polls hpolls.polled).widen (by simp))).append
      (.write (by decide))
  | failed hpolls _ entry control =>
    exact (hpending.append ((staysIn_polls hpolls.polled).widen (by simp))).append
      ((staysIn_giveUp entry control).widen (by decide))
  | turn size start => exact (staysIn_turnaround _ _ _ _).widen (by decide)
  | take _ => exact (staysIn_taken _).widen (by simp)

theorem staysIn_course {moves : List Move}
    (hcourse : controller.Course link moves events result left) :
    StaysIn engineRegisters events :=
  Course.of_shows (StaysIn engineRegisters) (fun _ hmem ↦ absurd hmem List.not_mem_nil) .append
    staysIn_shows hcourse

/-- A transfer writes no register but the engine's. -/
theorem staysIn_exchange {transfer : Transfer} {out : Except Error Unit × Link}
    (hplays : ((transfer.exchange controller).run.run link).Plays events out) :
    StaysIn engineRegisters events := by
  obtain ⟨result, left⟩ := out
  obtain ⟨course, middle, hcourse, rfl, -⟩ := plays_exchange hplays
  exact (staysIn_course hcourse).append (staysIn_stop.widen (by decide))

end Written

end I2c.Controller

end Scanout
