import Scanout.I2c.Controller
import Scanout.Proofs.Hardware

/-!
How a wait is decided. Polling keeps two counters and goes on until one of them reaches its limit, a
status is outside the protocol or the polls are used up. `verdict` says the same of the statuses
that were read, without counters: the wait is complete where they end in the required number of
completions. The induction over the polls carries what the counters say about the statuses so far
(`Counted`).
-/

set_option autoImplicit false
set_option relaxedAutoImplicit false

namespace Scanout

open Register

namespace I2c.Controller

/-- The statuses that leave a wait open for a time. -/
def knownStatuses : List UInt32 := [i2cDone, i2cNack, i2cPending]

/-- What some statuses, read one after the other, make of a wait. -/
def verdict (config : Config.Controller) (statuses : List UInt32) : Verdict :=
  if config.doneReads.toNat ≠ 0 ∧
      List.replicate config.doneReads.toNat i2cDone <:+ statuses then .complete
  else if config.nackLimit.toNat < statuses.count i2cNack then .refused
  else match statuses.find? (· ∉ knownStatuses) with
    | some status => .unexpected status
    | none => .undecided

/-- The error of a wait for a slave, unless the wait is complete. -/
def Verdict.cause? (config : Config.Controller) (address : Address) : Verdict → Option Error
  | complete => none
  | refused => some (.nack address.number)
  | unexpected status => some (.bus status)
  | undecided => some (.timeout config.pollLimit)

/-- What polling shows: the status is read, and time passes. -/
inductive IsPoll : Event → Prop
  | read (status : UInt32) : IsPoll (.read i2cStatus status)
  | delay (microseconds : UInt32) : IsPoll ⟨.delay microseconds, ()⟩

/-- The status that an event reads. -/
def reading (event : Event) : Option UInt32 :=
  event.answered.bind fun entry ↦ if entry.1 = i2cStatus then some entry.2 else none

/-- The statuses that are read among some events. -/
def readings (events : List Event) : List UInt32 :=
  events.filterMap reading

/-- The statuses so far leave the wait open, and are what the counters say. -/
structure Counted (config : Config.Controller) (statuses : List UInt32) (done nacks : Nat) :
    Prop where
  trailing : ∀ count, List.replicate count i2cDone <:+ statuses ↔ count ≤ done
  below : config.doneReads.toNat ≠ 0 → done < config.doneReads.toNat
  refusals : statuses.count i2cNack = nacks
  tolerated : nacks ≤ config.nackLimit.toNat
  known : ∀ status ∈ statuses, status ∈ knownStatuses

theorem replicate_succ_suffix_concat (count : Nat) (value last : UInt32) (values : List UInt32) :
    List.replicate (count + 1) value <:+ values ++ [last] ↔
      value = last ∧ List.replicate count value <:+ values := by
  rw [List.replicate_succ', List.suffix_concat_iff]
  constructor
  · rintro (hnil | ⟨front, heq, hsuffix⟩)
    · simp at hnil
    · obtain ⟨rfl, hlast⟩ := List.append_inj' heq rfl
      exact ⟨List.singleton_inj.mp hlast, hsuffix⟩
  · rintro ⟨rfl, hsuffix⟩
    exact .inr ⟨_, rfl, hsuffix⟩

namespace Counted

variable {config : Config.Controller} {statuses : List UInt32} {done nacks : Nat}

theorem start (config : Config.Controller) : Counted config [] 0 0 where
  trailing count := by cases count <;> simp [List.replicate_succ]
  below := Nat.pos_of_ne_zero
  refusals := rfl
  tolerated := Nat.zero_le _
  known := by simp

theorem trailing_done (hcounted : Counted config statuses done nacks) (count : Nat) :
    List.replicate count i2cDone <:+ statuses ++ [i2cDone] ↔ count ≤ done + 1 := by
  cases count with
  | zero => simp
  | succ count => simp [replicate_succ_suffix_concat, hcounted.trailing]

/-- After a status that is no completion, no completion counts. -/
theorem trailing_other {status : UInt32} (hstatus : status ≠ i2cDone) (count : Nat) :
    List.replicate count i2cDone <:+ statuses ++ [status] ↔ count ≤ 0 := by
  cases count with
  | zero => simp
  | succ count => simp [replicate_succ_suffix_concat, hstatus.symm]

theorem known_concat (hcounted : Counted config statuses done nacks) {status : UInt32}
    (hstatus : status ∈ knownStatuses) :
    ∀ earlier ∈ statuses ++ [status], earlier ∈ knownStatuses :=
  List.forall_mem_append.mpr ⟨hcounted.known, List.forall_mem_singleton.mpr hstatus⟩

theorem complete (hcounted : Counted config statuses done nacks)
    (hdone : done + 1 ≠ config.doneReads.toNat) :
    Counted config (statuses ++ [i2cDone]) (done + 1) nacks where
  trailing := hcounted.trailing_done
  below hreads := by
    have hbelow := hcounted.below hreads
    omega
  refusals := by simpa [show i2cDone ≠ i2cNack by decide] using hcounted.refusals
  tolerated := hcounted.tolerated
  known := hcounted.known_concat (by decide)

theorem refuse (hcounted : Counted config statuses done nacks)
    (hnacks : ¬config.nackLimit.toNat < nacks + 1) :
    Counted config (statuses ++ [i2cNack]) 0 (nacks + 1) where
  trailing := trailing_other (by decide)
  below := Nat.pos_of_ne_zero
  refusals := by simpa using hcounted.refusals
  tolerated := Nat.not_lt.mp hnacks
  known := hcounted.known_concat (by decide)

theorem pend (hcounted : Counted config statuses done nacks) :
    Counted config (statuses ++ [i2cPending]) 0 nacks where
  trailing := trailing_other (by decide)
  below := Nat.pos_of_ne_zero
  refusals := by simpa [show i2cPending ≠ i2cNack by decide] using hcounted.refusals
  tolerated := hcounted.tolerated
  known := hcounted.known_concat (by decide)

/-- Statuses that leave the wait open have no verdict yet. -/
theorem undecided (hcounted : Counted config statuses done nacks) :
    verdict config statuses = .undecided := by
  have hopen : ¬(config.doneReads.toNat ≠ 0 ∧
      List.replicate config.doneReads.toNat i2cDone <:+ statuses) := by
    rintro ⟨hreads, hsuffix⟩
    exact absurd ((hcounted.trailing _).mp hsuffix) (Nat.not_le.mpr (hcounted.below hreads))
  have hnacks : ¬config.nackLimit.toNat < statuses.count i2cNack := by
    rw [hcounted.refusals]
    exact Nat.not_lt.mpr hcounted.tolerated
  have hknown : statuses.find? (· ∉ knownStatuses) = none := by simpa using hcounted.known
  rw [verdict, if_neg hopen, if_neg hnacks, hknown]

theorem verdict_complete (hcounted : Counted config statuses done nacks)
    (hdone : done + 1 = config.doneReads.toNat) :
    verdict config (statuses ++ [i2cDone]) = .complete := by
  rw [verdict, if_pos]
  exact ⟨by omega, (hcounted.trailing_done _).mpr (Nat.le_of_eq hdone.symm)⟩

/-- A status that is no completion leaves the wait incomplete. -/
theorem not_complete {status : UInt32} (hstatus : status ≠ i2cDone) :
    ¬(config.doneReads.toNat ≠ 0 ∧
      List.replicate config.doneReads.toNat i2cDone <:+ statuses ++ [status]) := by
  rintro ⟨hreads, hsuffix⟩
  exact hreads (Nat.le_zero.mp ((trailing_other hstatus _).mp hsuffix))

theorem verdict_refused (hcounted : Counted config statuses done nacks)
    (hnacks : config.nackLimit.toNat < nacks + 1) :
    verdict config (statuses ++ [i2cNack]) = .refused := by
  rw [verdict, if_neg (not_complete (by decide)), if_pos]
  simpa [hcounted.refusals] using hnacks

theorem verdict_unexpected (hcounted : Counted config statuses done nacks) {status : UInt32}
    (hstatus : status ∉ knownStatuses) :
    verdict config (statuses ++ [status]) = .unexpected status := by
  have hdone : status ≠ i2cDone := by
    rintro rfl
    exact hstatus (by decide)
  have hnack : status ≠ i2cNack := by
    rintro rfl
    exact hstatus (by decide)
  have hnacks : ¬config.nackLimit.toNat < (statuses ++ [status]).count i2cNack := by
    rw [List.count_append, List.count_singleton, hcounted.refusals]
    simpa [hnack] using hcounted.tolerated
  have hknown : statuses.find? (· ∉ knownStatuses) = none := by simpa using hcounted.known
  rw [verdict, if_neg (not_complete hdone), if_neg hnacks, List.find?_append, hknown]
  simp [hstatus]

end Counted

/-- After some statuses these events are a number of polls and come to a verdict. Only where all
polls are used up may the verdict be left open. -/
structure Decides (config : Config.Controller) (statuses : List UInt32) (polls : Nat)
    (events : List Event) (out : Verdict) : Prop where
  polled : ∀ event ∈ events, IsPoll event
  verdict : out = verdict config (statuses ++ readings events)
  bounded : (readings events).length ≤ polls
  exhausted : out = .undecided → (readings events).length = polls

namespace Decides

variable {config : Config.Controller} {statuses : List UInt32} {polls : Nat} {out : Verdict}

theorem nil (hout : out = Controller.verdict config statuses) :
    Decides config statuses 0 [] out where
  polled := by simp
  verdict := by simpa [readings] using hout
  bounded := Nat.le_refl 0
  exhausted _ := rfl

/-- A status that decides the wait is the last one to be read. -/
theorem last {status : UInt32} (hout : out = Controller.verdict config (statuses ++ [status]))
    (hdecided : out ≠ .undecided) :
    Decides config statuses (polls + 1) [Event.read i2cStatus status] out where
  polled := List.forall_mem_singleton.mpr (.read status)
  verdict := hout
  bounded := Nat.le_add_left 1 polls
  exhausted hundecided := absurd hundecided hdecided

/-- After a status that decides nothing the polls go on, after a delay. -/
theorem next {status : UInt32} {microseconds : UInt32} {events : List Event}
    (hevents : Decides config (statuses ++ [status]) polls events out) :
    Decides config statuses (polls + 1)
      (Event.read i2cStatus status :: ⟨.delay microseconds, ()⟩ :: events) out where
  polled := List.forall_mem_cons.mpr
    ⟨.read status, List.forall_mem_cons.mpr ⟨.delay microseconds, hevents.polled⟩⟩
  verdict := by
    have hout := hevents.verdict
    rwa [List.append_assoc] at hout
  bounded := Nat.succ_le_succ hevents.bounded
  exhausted hundecided := congrArg Nat.succ (hevents.exhausted hundecided)

end Decides

/-- What a poll can do: the status that it reads decides the wait, or time passes and the polls go
on with counters that are right again. -/
theorem plays_poll_succ (config : Config.Controller) {polls done nacks : Nat}
    {statuses : List UInt32} (hcounted : Counted config statuses done nacks) {events : List Event}
    {out : Verdict} (hplays : (poll config (polls + 1) done nacks).Plays events out) :
    ∃ status,
      (events = [Event.read i2cStatus status] ∧ out = verdict config (statuses ++ [status]) ∧
        out ≠ .undecided) ∨
      ∃ later done nacks, events =
          Event.read i2cStatus status :: ⟨.delay config.pollInterval, ()⟩ :: later ∧
        Counted config (statuses ++ [status]) done nacks ∧
          (poll config polls done nacks).Plays later out := by
  rw [poll, Program.bind_eq, Program.plays_bind] at hplays
  obtain ⟨_, later, status, rfl, hread, hlater⟩ := hplays
  rw [(Hardware.plays_read _ _ _).mp hread]
  refine ⟨status, ?_⟩
  have hlast {decided : Verdict} (hverdict : verdict config (statuses ++ [status]) = decided)
      (hdecided : decided ≠ .undecided)
      (hdone : (Program.done decided : Hardware Verdict).Plays later out) :
      [Event.read i2cStatus status] ++ later = [Event.read i2cStatus status] ∧
        out = verdict config (statuses ++ [status]) ∧ out ≠ .undecided := by
    obtain ⟨rfl, rfl⟩ := (Program.plays_done _ _ _).mp hdone
    exact ⟨rfl, hverdict.symm, hdecided⟩
  have hnext {done nacks : Nat} (hcounted : Counted config (statuses ++ [status]) done nacks)
      (hlater : ((Hardware.delay config.pollInterval).bind fun _ ↦
        poll config polls done nacks).Plays later out) :
      ∃ final done nacks, [Event.read i2cStatus status] ++ later =
          Event.read i2cStatus status :: ⟨.delay config.pollInterval, ()⟩ :: final ∧
        Counted config (statuses ++ [status]) done nacks ∧
          (poll config polls done nacks).Plays final out := by
    rw [Hardware.delay, Program.ask_bind, Program.plays_ask] at hlater
    obtain ⟨_, final, rfl, hfinal⟩ := hlater
    exact ⟨final, done, nacks, rfl, hcounted, hfinal⟩
  split at hlater
  · rename_i hdone
    subst hdone
    split at hlater
    · exact .inl (hlast (hcounted.verdict_complete ‹_›) (by simp) hlater)
    · exact .inr (hnext (hcounted.complete ‹_›) hlater)
  · split at hlater
    · rename_i hnack
      subst hnack
      split at hlater
      · exact .inl (hlast (hcounted.verdict_refused ‹_›) (by simp) hlater)
      · exact .inr (hnext (hcounted.refuse ‹_›) hlater)
    · split at hlater
      · rename_i hpending
        subst hpending
        exact .inr (hnext hcounted.pend hlater)
      · have hunknown : status ∉ knownStatuses := by simp [knownStatuses, *]
        exact .inl (hlast (hcounted.verdict_unexpected hunknown) (by simp) hlater)

/-- The induction is on the polls that are left; the counters are right all the way. -/
theorem poll_decides (config : Config.Controller) {polls done nacks : Nat} {statuses : List UInt32}
    (hcounted : Counted config statuses done nacks) {events : List Event} {out : Verdict}
    (hplays : (poll config polls done nacks).Plays events out) :
    Decides config statuses polls events out := by
  induction polls generalizing done nacks statuses events with
  | zero =>
    obtain ⟨rfl, rfl⟩ := (Program.plays_done _ _ _).mp hplays
    exact .nil hcounted.undecided.symm
  | succ polls ih =>
    obtain ⟨status, ⟨rfl, hout, hdecided⟩ | ⟨later, _, _, rfl, hcounted, hlater⟩⟩ :=
      plays_poll_succ config hcounted hplays
    · exact .last hout hdecided
    · exact .next (ih hcounted hlater)

/-- A wait can be complete under this configuration. -/
def IsPatient (config : Config.Controller) : Prop :=
  config.doneReads.toNat ≠ 0 ∧ config.doneReads.toNat ≤ config.pollLimit.toNat

instance (config : Config.Controller) : Decidable (IsPatient config) :=
  inferInstanceAs (Decidable (_ ∧ _))

/-- Every register reads as complete. -/
def completing : Handler Access.signature Unit where
  answer
    | .read _, _ => (i2cDone, ())
    | .write _ _, _ | .delay _, _ | .note _, _ => ((), ())

/-- Where nothing but completions is read, as many polls as are still required complete the wait. -/
theorem run_poll_completing (config : Config.Controller) {missing done polls : Nat} (nacks : Nat)
    (hdone : done + (missing + 1) = config.doneReads.toNat) (hpolls : missing < polls) :
    ((poll config polls done nacks).run completing ()).1 = .complete := by
  induction missing generalizing done polls with
  | zero =>
    cases polls with
    | zero => exact absurd hpolls (Nat.not_lt_zero _)
    | succ polls =>
      rw [poll, Program.bind_eq, Program.run_bind]
      show ((if i2cDone = i2cDone then _ else _ : Hardware Verdict).run completing ()).1 = _
      rw [if_pos rfl, if_pos hdone]
      rfl
  | succ missing ih =>
    cases polls with
    | zero => exact absurd hpolls (Nat.not_lt_zero _)
    | succ polls =>
      rw [poll, Program.bind_eq, Program.run_bind]
      show ((if i2cDone = i2cDone then _ else _ : Hardware Verdict).run completing ()).1 = _
      rw [if_pos rfl, if_neg (by omega), Program.bind_eq, Program.run_bind]
      exact ih (by omega) (by omega)

/-- A patient wait is complete where nothing but completions is read. -/
theorem run_poll_patient {config : Config.Controller} (hpatient : IsPatient config) :
    ((poll config config.pollLimit.toNat 0 0).run completing ()).1 = .complete := by
  obtain ⟨hreads, hlimit⟩ := hpatient
  obtain ⟨missing, hmissing⟩ := Nat.exists_eq_succ_of_ne_zero hreads
  exact run_poll_completing config 0 (by omega) (by omega : missing < _)

/-- A wait that was complete was patient. -/
theorem isPatient_of_complete {config : Config.Controller} {statuses : List UInt32}
    (hverdict : verdict config statuses = .complete)
    (hlength : statuses.length ≤ config.pollLimit.toNat) : IsPatient config := by
  rw [verdict] at hverdict
  split at hverdict
  · rename_i hcomplete
    refine ⟨hcomplete.1, Nat.le_trans ?_ hlength⟩
    simpa using hcomplete.2.length_le
  · split at hverdict
    · cases hverdict
    · split at hverdict <;> cases hverdict

end I2c.Controller

end Scanout
