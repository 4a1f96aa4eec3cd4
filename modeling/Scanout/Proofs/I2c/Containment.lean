import Scanout.Proofs.I2c.Waits

/-!
How a transfer of the hardware engine fails. Every transfer that fails does so in one of its waits,
the first that is not complete. Up to there it is indistinguishable from a transfer that succeeds;
from there it only stops the bus, resets the engine and stops the bus again
(`exchange_contained`).

The argument cuts the moves at the one that failed (`plays_follow_error`). The moves before it
succeeded, so they can be continued to a transfer that succeeds as a whole
(`exists_plays_follow`), unless no wait can ever be complete under the configuration; then there
is no wait among them, and they are also those of an engine with more patience.
-/

set_option autoImplicit false
set_option relaxedAutoImplicit false

namespace Scanout

open Register

namespace I2c.Controller

section Failing

variable {controller : Controller} {link left : Link} {events : List Event}

/-- A transfer fails in the first of its moves that does, and the moves before it succeed. -/
theorem plays_follow_error {moves : List Move} {cause : Error}
    (hplays : ((controller.follow moves).run.run link).Plays events (.error cause, left)) :
    ∃ done move rest before late middle, moves = done ++ move :: rest ∧ events = before ++ late ∧
      ((controller.follow done).run.run link).Plays before (.ok (), middle) ∧
        ((controller.move move).run.run middle).Plays late (.error cause, left) := by
  induction moves generalizing link events with
  | nil =>
    obtain ⟨-, heq⟩ := (plays_step_pure _ _).mp hplays
    cases heq
  | cons move rest ih =>
    rw [follow, plays_exchange_bind] at hplays
    obtain ⟨early, late, _, middle, rfl, hmove, hrest⟩ | ⟨_, hmove, heq⟩ := hplays
    · obtain ⟨done, failing, rest, before, late, last, rfl, rfl, hbefore, hlate⟩ := ih hrest
      refine ⟨move :: done, failing, rest, early ++ before, late, last, rfl, by simp, ?_, hlate⟩
      rw [follow, plays_exchange_bind]
      exact .inl ⟨early, before, (), middle, rfl, hmove, hbefore⟩
    · cases heq
      exact ⟨[], move, rest, [], events, link, rfl, rfl, (plays_step_pure _ _).mpr ⟨rfl, rfl⟩,
        hmove⟩

theorem plays_follow_append {early late : List Move} {middle : Link} {before after : List Event}
    {out : Except Error Unit × Link}
    (hearly : ((controller.follow early).run.run link).Plays before (.ok (), middle))
    (hlate : ((controller.follow late).run.run middle).Plays after out) :
    ((controller.follow (early ++ late)).run.run link).Plays (before ++ after) out := by
  rw [follow_append, plays_exchange_bind]
  exact .inl ⟨before, after, (), middle, rfl, hearly, hlate⟩

/-- A patient engine may find a wait complete. -/
theorem exists_plays_wait (hpatient : IsPatient controller.config) (address : Address)
    (link : Link) :
    ∃ events, ((controller.wait address).run.run link).Plays events (.ok (), link) := by
  obtain ⟨polls, hpoll⟩ : ∃ polls,
      (poll controller.config controller.config.pollLimit.toNat 0 0).Plays polls .complete := by
    have hplays := Program.plays_trace completing
      (poll controller.config controller.config.pollLimit.toNat 0 0) ()
    rw [run_poll_patient hpatient] at hplays
    exact ⟨_, hplays⟩
  refine ⟨[pending] ++ (polls ++ [Event.write i2cStatus i2cDone]), ?_⟩
  unfold wait
  refine (plays_exchange_lift_bind _ _ _).mpr
    ⟨_, _, (), rfl, (Hardware.plays_write _ _ _ _).mpr rfl, ?_⟩
  refine (plays_exchange_lift_bind _ _ _).mpr ⟨_, _, .complete, rfl, hpoll, ?_⟩
  exact (plays_exchange_lift _ _ _).mpr ⟨(), (Hardware.plays_write _ _ _ _).mpr rfl, rfl, rfl⟩

/-- Every move can succeed; only waiting may fail at all. -/
theorem exists_plays_move (hpatient : IsPatient controller.config) (move : Move) (link : Link) :
    ∃ events left, ((controller.move move).run.run link).Plays events (.ok (), left) := by
  obtain ⟨events, ⟨result, left⟩, hplays⟩ :
      ∃ events out, ((controller.move move).run.run link).Plays events out :=
    ⟨_, _, Program.plays_trace completing _ ()⟩
  cases plays_move hplays with
  | @complete address | @failed address =>
    obtain ⟨events, hwait⟩ := exists_plays_wait hpatient address link
    exact ⟨events, link, hwait⟩
  | kick | turn | take => exact ⟨_, _, hplays⟩

theorem exists_plays_follow (hpatient : IsPatient controller.config) (moves : List Move)
    (link : Link) :
    ∃ events left, ((controller.follow moves).run.run link).Plays events (.ok (), left) := by
  induction moves generalizing link with
  | nil => exact ⟨[], link, (plays_step_pure _ _).mpr ⟨rfl, rfl⟩⟩
  | cons move rest ih =>
    obtain ⟨early, middle, hmove⟩ := exists_plays_move hpatient move link
    obtain ⟨late, left, hrest⟩ := ih middle
    refine ⟨early ++ late, left, ?_⟩
    rw [follow, plays_exchange_bind]
    exact .inl ⟨early, late, (), middle, rfl, hmove, hrest⟩

/-- Moves without a wait do not depend on how long an engine would wait. -/
theorem follow_of_unawaited {other : Controller} (hother : other.connector = controller.connector)
    {moves : List Move} (hmoves : moves.filterMap Move.awaited = []) :
    other.follow moves = controller.follow moves := by
  induction moves with
  | nil => rfl
  | cons move rest ih =>
    obtain ⟨config, connector⟩ := controller
    obtain ⟨config', _⟩ := other
    obtain rfl : _ = connector := hother
    rw [List.filterMap_cons] at hmoves
    cases move with
    | wait address => cases hmoves
    | kick | turn | take =>
      rw [follow, follow, ih hmoves]
      rfl

end Failing

/-- The engine itself, if its waits can be complete at all. Otherwise the same engine with as much
patience as a complete wait takes. -/
def patient (controller : Controller) : Controller :=
  if IsPatient controller.config then controller
  else { controller with config := { controller.config with doneReads := 1, pollLimit := 1 } }

theorem patient_isPatient (controller : Controller) : IsPatient controller.patient.config := by
  unfold patient
  split
  · assumption
  · exact ⟨Nat.one_ne_zero, Nat.le_refl 1⟩

theorem patient_chunk (controller : Controller) :
    controller.patient.config.chunk = controller.config.chunk := by
  unfold patient
  split <;> rfl

theorem patient_connector (controller : Controller) :
    controller.patient.connector = controller.connector := by
  unfold patient
  split <;> rfl

/-- What a transfer shows whose wait has failed, that wait having read these statuses after so many
complete ones. Up to the wait it shows what a transfer may show that succeeds, and from there the
log is told why, the bus is stopped, the engine is reset and the bus is stopped again. -/
def Unwinds (controller : Controller) (transfer : Transfer) (link : Link) (complete : Nat)
    (statuses : List UInt32) (events : List Event) (result : Except Error Unit) : Prop :=
  ∃ before polls entry control address cause,
    events = before ++ pending :: polls ++ giveUp entry control ++ Event.writes stopWrites ∧
    (waits before).length = complete ∧ (∀ event ∈ polls, event.written = none) ∧
    ((transfer.moves controller.config.chunk).filterMap Move.awaited)[complete]? = some address ∧
    (verdict controller.config statuses).cause? controller.config address = some cause ∧
    result = .error cause ∧
    ∃ more left, ((transfer.exchange controller.patient).run.run link).Plays
      (before ++ pending :: more) (.ok (), left)

/-- How a transfer may end. -/
structure Contained (controller : Controller) (transfer : Transfer) (link : Link)
    (events : List Event) (result : Except Error Unit) (left : Link) : Prop where
  /-- Whatever happened, the bus is stopped. -/
  stopped : left.started = false
  /-- The stop is the last that is written. -/
  stops : stopWrites <:+ events.filterMap Event.written
  /-- A transfer succeeds where each of its waits does. -/
  succeeds : result = .ok () ↔
    ∀ statuses ∈ waits events, verdict controller.config statuses = .complete
  /-- The first wait that fails is the last one, and the transfer unwinds with its error. -/
  unwinds : ∀ early statuses late, waits events = early ++ statuses :: late →
    (∀ earlier ∈ early, verdict controller.config earlier = .complete) →
    verdict controller.config statuses ≠ .complete →
    late = [] ∧ Unwinds controller transfer link early.length statuses events result

/-- Where all of a list but its last element is of one kind, that is the first of another kind. -/
theorem eq_of_append_cons_eq_concat {α : Type} {kind : α → Prop} {early late done : List α}
    {first last : α} (heq : early ++ first :: late = done ++ [last])
    (hdone : ∀ value ∈ done, kind value) (hfirst : ¬kind first) :
    early = done ∧ first = last ∧ late = [] := by
  rcases List.append_eq_append_iff.mp heq with ⟨middle, rfl, hlate⟩ | ⟨middle, rfl, hlate⟩
  · cases middle with
    | nil =>
      obtain ⟨rfl, rfl⟩ := List.cons.inj hlate
      exact ⟨by simp, rfl, rfl⟩
    | cons value rest =>
      obtain ⟨rfl, -⟩ := List.cons.inj hlate
      exact absurd (hdone first (by simp)) hfirst
  · cases middle with
    | nil =>
      obtain ⟨rfl, rfl⟩ := List.cons.inj hlate
      exact ⟨by simp, rfl, rfl⟩
    | cons value rest => simp at hlate

theorem contained_ok {controller : Controller} {transfer : Transfer} {link left : Link}
    {events : List Event}
    (hplays : ((transfer.exchange controller).run.run link).Plays events (.ok (), left)) :
    Contained controller transfer link events (.ok ()) left := by
  obtain ⟨course, middle, hcourse, rfl, rfl⟩ := plays_exchange hplays
  obtain ⟨-, -, hcomplete⟩ := hcourse.waits_ok
  have hwaits : ∀ statuses ∈ waits (course ++ Event.writes stopWrites),
      verdict controller.config statuses = .complete := by
    rw [waits_append _ (quiet quiet_stop).1, (quiet quiet_stop).2, List.append_nil]
    exact fun statuses hmem ↦ (hcomplete statuses hmem).1
  refine ⟨rfl, ?_, iff_of_true rfl hwaits, ?_⟩
  · rw [List.filterMap_append]
    exact List.suffix_append _ _
  · intro early statuses late heq _ hincomplete
    rw [heq] at hwaits
    exact absurd (hwaits statuses (by simp)) hincomplete

/-- The moves before a wait that fails can go on to a transfer that succeeds. -/
theorem exists_plays_patient {controller : Controller} {done : List Move} (address : Address)
    (rest : List Move) {link middle : Link} {before : List Event}
    (hbefore : ((controller.follow done).run.run link).Plays before (.ok (), middle)) :
    ∃ more left, ((controller.patient.follow (done ++ .wait address :: rest)).run.run link).Plays
      (before ++ pending :: more) (.ok (), left) := by
  have hpatient := controller.patient_isPatient
  have hdone : ((controller.patient.follow done).run.run link).Plays before (.ok (), middle) := by
    by_cases hself : IsPatient controller.config
    · rwa [patient, if_pos hself]
    · obtain ⟨-, hlength, hcomplete⟩ := (plays_follow hbefore).waits_ok
      have hnone : waits before = [] :=
        List.eq_nil_iff_forall_not_mem.mpr fun statuses hmem ↦ hself (hcomplete statuses hmem).2
      rw [hnone] at hlength
      rwa [follow_of_unawaited controller.patient_connector
        (List.eq_nil_of_length_eq_zero hlength.symm)]
  obtain ⟨events, left, hrest⟩ := exists_plays_follow hpatient (.wait address :: rest) middle
  obtain ⟨more, rfl⟩ : ∃ more, events = pending :: more := by
    cases plays_follow hrest with
    | next hmove _ =>
      cases hmove with
      | complete _ => exact ⟨_, rfl⟩
  exact ⟨more, left, plays_follow_append hdone hrest⟩

theorem contained_error {controller : Controller} {transfer : Transfer} {link left : Link}
    {events : List Event} {cause : Error}
    (hplays : ((transfer.exchange controller).run.run link).Plays events (.error cause, left)) :
    Contained controller transfer link events (.error cause) left := by
  rw [transfer.exchange_eq, plays_closed] at hplays
  obtain ⟨course, middle, hcourse, rfl, rfl⟩ := hplays
  obtain ⟨done, move, rest, before, late, last, hmoves, rfl, hbefore, hlate⟩ :=
    plays_follow_error hcourse
  cases plays_move hlate with
  | @failed address polls out _ hpolls hcause entry control =>
    obtain ⟨-, hlength, hcomplete⟩ := (plays_follow hbefore).waits_ok
    have hquiet : ∀ event ∈ giveUp entry control ++ Event.writes stopWrites, IsQuiet event :=
      List.forall_mem_append.mpr ⟨quiet_giveUp entry control, quiet_stop⟩
    obtain ⟨hlast, hverdict, hincomplete⟩ := waits_failed hpolls hcause hquiet
    have hevents : before ++ (Event.write i2cStatus i2cPending :: polls ++ giveUp entry control) ++
        Event.writes stopWrites =
          before ++ (pending :: polls ++ (giveUp entry control ++ Event.writes stopWrites)) := by
      simp [pending]
    have hwaits : waits (before ++ (Event.write i2cStatus i2cPending :: polls ++
        giveUp entry control) ++ Event.writes stopWrites) = waits before ++ [readings polls] := by
      have hbegins : leading (pending :: polls ++ (giveUp entry control ++
          Event.writes stopWrites)) = [] := leading_pending _
      rw [hevents, waits_append before hbegins, hlast]
    refine ⟨rfl, ?_, iff_of_false (by simp) ?_, ?_⟩
    · rw [List.filterMap_append]
      exact List.suffix_append _ _
    · rw [hwaits]
      intro hall
      exact hincomplete (hverdict ▸ hall _ (by simp))
    · intro early statuses late heq _ hfirst
      obtain ⟨rfl, rfl, rfl⟩ := eq_of_append_cons_eq_concat (heq.symm.trans hwaits)
        (fun statuses hmem ↦ (hcomplete statuses hmem).1) hfirst
      obtain ⟨more, final, hmore⟩ := exists_plays_patient address rest hbefore
      refine ⟨rfl, before, polls, entry, control, address, cause, ?_, rfl, ?_, ?_, ?_, rfl,
        more ++ Event.writes stopWrites, { final with started := false }, ?_⟩
      · simp [pending]
      · intro event hevent
        cases hpolls.polled event hevent <;> rfl
      · rw [hmoves, List.filterMap_append, hlength]
        simp [Move.awaited]
      · rw [hverdict, hcause]
      · rw [transfer.exchange_eq, plays_closed, patient_chunk, hmoves]
        exact ⟨_, final, hmore, by simp, rfl⟩

/-- Whatever the registers answer, a transfer is contained. -/
theorem exchange_contained (controller : Controller) (transfer : Transfer) (link : Link) {σ : Type}
    (handler : Handler Access.signature σ) (state : σ) :
    Contained controller transfer link
      (((transfer.exchange controller).run.run link).trace handler state)
      (((transfer.exchange controller).run.run link).run handler state).1.1
      (((transfer.exchange controller).run.run link).run handler state).1.2 := by
  have hplays := Program.plays_trace handler ((transfer.exchange controller).run.run link) state
  cases hresult : (((transfer.exchange controller).run.run link).run handler state).1.1 with
  | ok value => exact contained_ok (hresult ▸ hplays)
  | error cause => exact contained_error (hresult ▸ hplays)

end I2c.Controller

end Scanout
