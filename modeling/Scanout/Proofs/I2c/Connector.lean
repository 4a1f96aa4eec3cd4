import Scanout.Proofs.I2c.Waits
import Scanout.Proofs.Recall
import Scanout.Proofs.Register.Packed

/-!
Which connector the hardware engine talks to. The start register chooses it, and is given a
connector only where the engine is found disabled: then the bus is set up for the connector of the
controller at hand. An engine that was enabled before stays enabled, through every transfer and
every reset, so it stays on the connector that the start register holds, whichever controller
talks.

What is followed is a trace that remembers its start and control registers. Once these are latched
on a connector (`Latched`), no event of a transfer changes that (`Sticks`); the first kick latches
them (`latched_of_opens`).
-/

set_option autoImplicit false
set_option relaxedAutoImplicit false

namespace Scanout

open Register

namespace I2c

/-- The connector that a value of the start register chooses. -/
def connectorOf (start : UInt32) : UInt32 :=
  (start &&& i2cConnectorMask) >>> i2cConnectorShift

namespace Controller

/-- What the start register holds wherever a wait begins: the values that transactions were kicked
off with. -/
def kicks : (start : UInt32) → List Event → List UInt32
  | _, [] => []
  | start, event :: rest =>
    (if event = pending then [start] else []) ++ kicks (recalled i2cStart start [event]) rest

/-- The connector that a transfer for a connector is going to talk to. -/
def reached (connector : UInt8) (control start : UInt32) : UInt32 :=
  if control &&& i2cEnabled = 0 then connector.toUInt32 % 4 else connectorOf start

/-- A value of the start register kicks a transaction off on the connector. -/
structure Kicks (connector start : UInt32) : Prop where
  kick : start &&& i2cKick ≠ 0
  connector : connectorOf start = connector

/-- The engine is enabled, and its start register is that of a transaction on the connector. -/
structure Latched (connector control start : UInt32) : Prop where
  enabled : control &&& i2cEnabled ≠ 0
  kicks : Kicks connector start

section Words

theorem connectorOf_update {clear set : UInt32} (hclear : clear &&& i2cConnectorMask = 0)
    (hset : set &&& i2cConnectorMask = 0) (start : UInt32) :
    connectorOf ((start &&& ~~~clear) ||| set) = connectorOf start := by
  rw [connectorOf, connectorOf, updated_and_of_disjoint hclear hset]

/-- Only two bits of a connector's number reach the start register. -/
theorem connectorOf_setup (controller : Controller) :
    connectorOf (i2cKick ||| controller.connectorBits) = controller.connector.toUInt32 % 4 := by
  have hall : ∀ connector : Fin 256,
      connectorOf (i2cKick ||| (⟨{}, .ofFin connector⟩ : Controller).connectorBits) =
        (UInt8.ofFin connector).toUInt32 % 4 := by decide +kernel
  exact hall controller.connector.toFin

/-- Kicking again keeps the connector. -/
theorem kicks_again (start : UInt32) :
    Kicks (connectorOf start) ((start &&& ~~~0) ||| i2cKick) where
  kick := by
    rw [set_and_self]
    decide
  connector := connectorOf_update (by decide) (by decide) start

theorem Kicks.command {connector start commands : UInt32} (hkicks : Kicks connector start)
    (hkick : commands &&& i2cKick = 0) (hconnector : commands &&& i2cConnectorMask = 0) :
    Kicks connector ((start &&& ~~~i2cCommandMask) ||| commands) where
  kick := by
    rw [updated_and_of_disjoint (by decide) hkick]
    exact hkicks.kick
  connector := (connectorOf_update (by decide) hconnector start).trans hkicks.connector

theorem enabled_set (control : UInt32) :
    ((control &&& ~~~0) ||| i2cEnabled) &&& i2cEnabled ≠ 0 := by
  rw [set_and_self]
  decide

/-- A reset does not disable the engine. -/
theorem enabled_reset {control : UInt32} (henabled : control &&& i2cEnabled ≠ 0) :
    ((control &&& ~~~0) ||| i2cReset) &&& i2cEnabled ≠ 0 := by
  rwa [updated_and_of_disjoint (by decide) (by decide)]

end Words

theorem kicks_append (start : UInt32) (early late : List Event) :
    kicks start (early ++ late) =
      kicks start early ++ kicks (recalled i2cStart start early) late := by
  induction early generalizing start with
  | nil => rfl
  | cons event rest ih =>
    rw [List.cons_append, kicks, kicks, ih, recalled_cons i2cStart start event rest,
      List.append_assoc]

theorem kicks_of_quiet {events : List Event} (hevents : ∀ event ∈ events, IsQuiet event)
    (start : UInt32) : kicks start events = [] := by
  induction events generalizing start with
  | nil => rfl
  | cons event rest ih =>
    rw [List.forall_mem_cons] at hevents
    rw [kicks, if_neg hevents.1.1, ih hevents.2]
    rfl

/-- Where a wait begins, something was kicked off. -/
theorem kicks_ne_nil {events : List Event} (hmem : pending ∈ events) (start : UInt32) :
    kicks start events ≠ [] := by
  induction events generalizing start with
  | nil => cases hmem
  | cons event rest ih =>
    rw [kicks]
    split
    · exact List.cons_ne_nil _ _
    · rename_i hother
      exact ih ((List.mem_cons.mp hmem).resolve_left fun heq ↦ hother heq.symm) _

/-- A kick that is waited for shows a wait, however that ends. -/
theorem pending_mem_of_course {controller : Controller} {link left : Link} {address : Address}
    {count : Nat} {bytes : List UInt8} {rest : List Move} {events : List Event}
    {result : Except Error Unit}
    (hcourse : controller.Course link (.kick address count bytes :: .wait address :: rest) events
      result left) : pending ∈ events := by
  have hwait {link left : Link} {events : List Event} {result : Except Error Unit}
      (hshows : controller.Shows link (.wait address) events result left) : pending ∈ events := by
    cases hshows with
    | complete _ => exact List.mem_cons_self
    | failed _ _ _ _ => exact List.mem_cons_self
  cases hcourse with
  | next _ hrest =>
    refine List.mem_append_right _ ?_
    cases hrest with
    | next hmove _ => exact List.mem_append_left _ (hwait hmove)
    | failed hmove => exact hwait hmove
  | failed hmove => cases hmove

/-- Events that remember the registers keep them latched, and every transaction among them is kicked
off on the connector. -/
def Sticks (events : List Event) : Prop :=
  ∀ connector control start, Latched connector control start →
    Remembers i2cControl control events → Remembers i2cStart start events →
      (∀ value ∈ kicks start events, Kicks connector value) ∧
        Latched connector (recalled i2cControl control events) (recalled i2cStart start events)

namespace Sticks

theorem nil : Sticks [] :=
  fun _ _ _ hlatched _ _ ↦ ⟨fun _ hmem ↦ absurd hmem List.not_mem_nil, hlatched⟩

theorem append {early late : List Event} (hearly : Sticks early) (hlate : Sticks late) :
    Sticks (early ++ late) := by
  intro connector control start hlatched hcontrol hstart
  rw [remembers_append] at hcontrol hstart
  obtain ⟨hkicks, hmiddle⟩ := hearly connector control start hlatched hcontrol.1 hstart.1
  obtain ⟨hmore, hleft⟩ := hlate connector _ _ hmiddle hcontrol.2 hstart.2
  rw [kicks_append, recalled_append, recalled_append]
  exact ⟨List.forall_mem_append.mpr ⟨hkicks, hmore⟩, hleft⟩

/-- What writes neither of the two registers leaves them. -/
theorem of_staysIn {registers : List Direct} {events : List Event}
    (hevents : StaysIn registers events) (hcontrol : i2cControl ∉ registers)
    (hstart : i2cStart ∉ registers) : Sticks events := by
  induction events with
  | nil => exact nil
  | cons event rest ih =>
    obtain ⟨hevent, hrest⟩ := List.forall_mem_cons.mp hevents
    refine (append ?_ (ih hrest) : Sticks ([event] ++ rest))
    intro connector control start hlatched _ _
    rw [recalled_of_unwritten _ _ (List.forall_mem_singleton.mpr fun word hwritten ↦
        hcontrol (hevent i2cControl word hwritten)),
      recalled_of_unwritten _ _ (List.forall_mem_singleton.mpr fun word hwritten ↦
        hstart (hevent i2cStart word hwritten))]
    refine ⟨fun value hmem ↦ ?_, hlatched⟩
    rw [kicks, kicks, List.append_nil] at hmem
    split at hmem
    · obtain rfl := List.mem_singleton.mp hmem
      exact hlatched.kicks
    · cases hmem

theorem stop : Sticks (Event.writes stopWrites) :=
  of_staysIn staysIn_stop (by decide) (by decide)

/-- The commands of the start register are not about its connector. -/
theorem command {commands : UInt32} (hkick : commands &&& i2cKick = 0)
    (hconnector : commands &&& i2cConnectorMask = 0) (old : UInt32) :
    Sticks (Event.update i2cStart i2cCommandMask commands old) := by
  intro connector control start hlatched _ hstart
  obtain rfl : old = start := by simpa [Event.update] using hstart
  refine ⟨?_, ?_⟩
  · rw [kicks_of_quiet (quiet_update (by decide) _ _ _)]
    exact fun _ hmem ↦ absurd hmem List.not_mem_nil
  · simpa [Event.update, show i2cStart ≠ i2cControl by decide] using
      (⟨hlatched.enabled, hlatched.kicks.command hkick hconnector⟩ : Latched ..)

/-- Starting the bus of an enabled engine only kicks it again. -/
theorem opens {controller : Controller} {events : List Event} (hopens : controller.Opens events) :
    Sticks events := by
  intro connector control start hlatched hcontrol hstart
  refine ⟨?_, ?_⟩
  · rw [kicks_of_quiet (quiet_opens hopens)]
    exact fun _ hmem ↦ absurd hmem List.not_mem_nil
  · cases hopens with
    | enabled _ old =>
      obtain rfl : old = start := by
        simpa [Event.update, show i2cControl ≠ i2cStart by decide] using hstart
      have hagain := kicks_again old
      rw [hlatched.kicks.connector] at hagain
      simpa [Event.update, show i2cStart ≠ i2cControl by decide] using
        (⟨hlatched.enabled, hagain⟩ : Latched ..)
    | @disabled found hdisabled =>
      -- An engine that is latched is not found disabled.
      obtain rfl : found = control := (remembers_read_cons ..).mp hcontrol |>.1 rfl
      exact absurd hdisabled hlatched.enabled

theorem load (count : Nat) (bytes : List UInt8) (size acknowledge start : UInt32) :
    Sticks (Controller.load count bytes size acknowledge start) := by
  have hqueue : StaysIn [i2cSize, i2cAcknowledge, i2cData]
      (Event.update i2cSize i2cCountMask (countBits count) size ++
        [.read i2cAcknowledge acknowledge, .write i2cAcknowledge acknowledge] ++
          Event.writes (queueWrites bytes)) :=
    .append (.append (.update (by decide)) (.append (.read _ _) (.write (by decide))))
      ((staysIn_queue bytes).widen (by decide))
  exact append (of_staysIn hqueue (by decide) (by decide)) (command (by decide) (by decide) _)

theorem turnaround (address : Address) (count : Nat) (size start : UInt32) :
    Sticks (Controller.turnaround address count size start) := by
  have hqueue : StaysIn [i2cData, i2cSize] (Event.writes (queueWrites [address.turnaround]) ++
      Event.update i2cSize i2cCountMask (countBits count) size) :=
    .append ((staysIn_queue _).widen (by decide)) (.update (by decide))
  exact append (of_staysIn hqueue (by decide) (by decide)) (command (by decide) (by decide) _)

/-- A reset leaves the engine enabled. -/
theorem reset (old : UInt32) : Sticks (Event.update i2cControl 0 i2cReset old) := by
  intro connector control start hlatched hcontrol _
  obtain rfl : old = control := by simpa [Event.update] using hcontrol
  refine ⟨?_, ?_⟩
  · rw [kicks_of_quiet (quiet_update (by decide) _ _ _)]
    exact fun _ hmem ↦ absurd hmem List.not_mem_nil
  · simpa [Event.update, show i2cControl ≠ i2cStart by decide] using
      (⟨enabled_reset hlatched.enabled, hlatched.kicks⟩ : Latched ..)

theorem giveUp (entry : Log.Entry) (control : UInt32) :
    Sticks (Controller.giveUp entry control) := by
  have hnote : StaysIn [] [Event.note entry] := .of_silent (by simp)
  exact append (append (of_staysIn hnote (by decide) (by decide)) stop) (reset control)

variable {controller : Controller} {link left : Link} {events : List Event}
  {result : Except Error Unit}

theorem shows {move : Move} (hshows : controller.Shows link move events result left) :
    Sticks events := by
  have hbegins {polls : List Event} (hpolls : ∀ event ∈ polls, IsPoll event) :
      StaysIn [i2cStatus] ([pending] ++ polls) :=
    .append (.write (by decide)) ((staysIn_polls hpolls).widen (by decide))
  cases hshows with
  | kick hopens size acknowledge start => exact append (opens hopens) (load _ _ _ _ _)
  | complete hpolls =>
    exact of_staysIn ((hbegins hpolls.polled).append (.write (by decide))) (by decide) (by decide)
  | failed hpolls _ entry control =>
    exact append (of_staysIn (hbegins hpolls.polled) (by decide) (by decide)) (giveUp entry control)
  | turn size start => exact turnaround _ _ _ _
  | take _ => exact of_staysIn (staysIn_taken _) (by decide) (by decide)

/-- No move takes an engine that is latched off its connector. -/
theorem course {moves : List Move} (hcourse : controller.Course link moves events result left) :
    Sticks events :=
  Course.of_shows Sticks nil append shows hcourse

end Sticks

/-- What starts the bus latches the engine: on the connector of the controller where it was
disabled, and where it was enabled on the one that the start register held. -/
theorem latched_of_opens {controller : Controller} {events : List Event} {control start : UInt32}
    (hopens : controller.Opens events) (hcontrol : Remembers i2cControl control events)
    (hstart : Remembers i2cStart start events) :
    Latched (reached controller.connector control start) (recalled i2cControl control events)
      (recalled i2cStart start events) := by
  cases hopens with
  | @enabled found henabled old =>
    obtain rfl : found = control := (remembers_read_cons ..).mp hcontrol |>.1 rfl
    obtain rfl : old = start := by
      simpa [Event.update, show i2cControl ≠ i2cStart by decide] using hstart
    rw [reached, if_neg henabled]
    simpa [Event.update, show i2cStart ≠ i2cControl by decide] using
      (⟨henabled, kicks_again old⟩ : Latched ..)
  | @disabled found hdisabled again size old =>
    obtain rfl : found = control := (remembers_read_cons ..).mp hcontrol |>.1 rfl
    rw [reached, if_pos hdisabled, ← connectorOf_setup]
    obtain rfl : old = i2cKick ||| controller.connectorBits := by
      simpa +decide [setup, Event.update, Event.writes, stopWrites] using hstart
    simpa +decide [setup, Event.update, Event.writes, stopWrites] using
      (⟨enabled_set again, kicks_again _⟩ : Latched ..)

/-- A transfer that begins with a kick latches the engine, and stays on the connector that it was
latched on. -/
theorem latched_of_course {controller : Controller} {link left : Link} {address : Address}
    {count : Nat} {bytes : List UInt8} {rest : List Move} {events : List Event}
    {result : Except Error Unit} {control start : UInt32}
    (hcourse : controller.Course link (.kick address count bytes :: rest) events result left)
    (hcontrol : Remembers i2cControl control events) (hstart : Remembers i2cStart start events) :
    (∀ value ∈ kicks start events, Kicks (reached controller.connector control start) value) ∧
      Latched (reached controller.connector control start) (recalled i2cControl control events)
        (recalled i2cStart start events) := by
  cases hcourse with
  | next hmove hrest =>
    cases hmove with
    | @kick _ _ _ opening hopens size acknowledge old =>
      rw [List.append_assoc] at hcontrol hstart ⊢
      rw [remembers_append] at hcontrol hstart
      have hlatched := latched_of_opens hopens hcontrol.1 hstart.1
      rw [kicks_append, kicks_of_quiet (quiet_opens hopens), List.nil_append,
        recalled_append i2cControl control opening, recalled_append i2cStart start opening]
      exact (Sticks.append (.load _ _ _ _ _) (.course hrest)) _ _ _ hlatched hcontrol.2 hstart.2
  | failed hmove => cases hmove

/-- Once latched, an engine stays so through any transfer, whichever controller makes it. -/
theorem Sticks.exchange {controller : Controller} {transfer : Transfer} {link : Link}
    {events : List Event} {out : Except Error Unit × Link}
    (hplays : ((transfer.exchange controller).run.run link).Plays events out) : Sticks events := by
  obtain ⟨course, middle, hcourse, rfl, -⟩ := plays_exchange hplays
  exact append (Sticks.course hcourse) stop

/-- The transactions of a transfer are kicked off on the connector that it reaches. If it makes any
move at all it kicks one off, and leaves the engine latched on that connector. -/
theorem kicks_of_exchange {controller : Controller} {transfer : Transfer} {link : Link}
    {events : List Event} {out : Except Error Unit × Link} {control start : UInt32}
    (hplays : ((transfer.exchange controller).run.run link).Plays events out)
    (hcontrol : Remembers i2cControl control events) (hstart : Remembers i2cStart start events) :
    (∀ value ∈ kicks start events, Kicks (reached controller.connector control start) value) ∧
      (transfer.moves controller.config.chunk ≠ [] → kicks start events ≠ [] ∧
        Latched (reached controller.connector control start) (recalled i2cControl control events)
          (recalled i2cStart start events)) := by
  obtain ⟨result, left⟩ := out
  obtain ⟨course, middle, hcourse, rfl, -⟩ := plays_exchange hplays
  rw [remembers_append] at hcontrol hstart
  obtain hnone | ⟨address, count, bytes, rest, hmoves⟩ :=
    transfer.kicking_moves controller.config.chunk
  · rw [hnone] at hcourse
    cases hcourse with
    | done =>
      rw [List.nil_append, kicks_of_quiet quiet_stop]
      exact ⟨fun _ hmem ↦ absurd hmem List.not_mem_nil, fun hsome ↦ absurd hnone hsome⟩
  · rw [hmoves] at hcourse
    obtain ⟨hkicks, hlatched⟩ := latched_of_course hcourse hcontrol.1 hstart.1
    obtain ⟨hmore, hleft⟩ := Sticks.stop _ _ _ hlatched hcontrol.2 hstart.2
    have hpending := pending_mem_of_course hcourse
    refine ⟨?_, fun _ ↦ ⟨kicks_ne_nil (List.mem_append_left _ hpending) start, ?_⟩⟩
    · rw [kicks_append]
      exact List.forall_mem_append.mpr ⟨hkicks, hmore⟩
    · rw [recalled_append, recalled_append]
      exact hleft

end Controller

end I2c

end Scanout
