import Scanout.Proofs.I2c.Course

/-!
The first status that decides a wait. Of the two counters of polling one starts again at every
status that is no completion, the other only goes up. Seen from the sequence of all statuses that
would ever be read, each is a property of the statuses up to an index, and so is the verdict
(`Concludes`): the wait ends at the least index that concludes it, whatever comes later, and runs
out of polls if there is none among them (`wait_first_conclusive`).
-/

set_option autoImplicit false
set_option relaxedAutoImplicit false

namespace Scanout

open Register

namespace I2c.Controller

/-- The first statuses of a sequence. -/
def seen (status : Nat → UInt32) (count : Nat) : List UInt32 :=
  (List.range count).map status

/-- The status at an index decides a wait: it is the last of enough completions in a row, the first
refusal too many, or outside the protocol. -/
inductive Concludes (config : Config.Controller) (status : Nat → UInt32) (last : Nat) :
    Verdict → Prop
  | complete (hreads : config.doneReads.toNat ≤ last + 1)
      (hdone : ∀ index, last < index + config.doneReads.toNat → index ≤ last →
        status index = i2cDone) : Concludes config status last .complete
  | refused (hnack : status last = i2cNack)
      (hnacks : (seen status (last + 1)).count i2cNack = config.nackLimit.toNat + 1) :
      Concludes config status last .refused
  | unexpected (hunknown : status last ∉ knownStatuses) :
      Concludes config status last (.unexpected (status last))

/-- The events of polls that leave a wait open, from an index of the sequence on. -/
def openPolls (config : Config.Controller) (status : Nat → UInt32) (first count : Nat) :
    List Event :=
  (List.range' first count).flatMap fun index ↦
    [Event.read i2cStatus (status index), ⟨.delay config.pollInterval, ()⟩]

/-- The status reads as a sequence has it; a device answers everything else. -/
def reporting {σ : Type} (status : Nat → UInt32) (device : Handler Access.signature σ) :
    Handler Access.signature (Nat × σ) where
  answer
    | .read offset, (index, state) =>
      if offset = i2cStatus.offset then (status index, index + 1, state)
      else ((device.answer (.read offset) state).1, index, (device.answer (.read offset) state).2)
    | .write offset value, (index, state) =>
      ((), index, (device.answer (.write offset value) state).2)
    | .delay microseconds, (index, state) =>
      ((), index, (device.answer (.delay microseconds) state).2)
    | .note entry, (index, state) => ((), index, (device.answer (.note entry) state).2)

section Sequence

variable {config : Config.Controller} {status : Nat → UInt32}

theorem seen_succ (status : Nat → UInt32) (count : Nat) :
    seen status (count + 1) = seen status count ++ [status count] := by
  rw [seen, List.range_succ, List.map_append]
  rfl

/-- Completions at the end of the statuses, index by index. -/
theorem replicate_suffix_seen (value : UInt32) (reads count : Nat) :
    List.replicate reads value <:+ seen status count ↔
      reads ≤ count ∧ ∀ index, count ≤ index + reads → index < count → status index = value := by
  induction reads generalizing count with
  | zero => simp; omega
  | succ reads ih =>
    cases count with
    | zero => simp [seen, List.replicate_succ]
    | succ count =>
      rw [seen_succ, replicate_succ_suffix_concat, ih]
      constructor
      · rintro ⟨hlast, hreads, hvalues⟩
        refine ⟨by omega, fun index hfrom hto ↦ ?_⟩
        rcases Nat.lt_succ_iff_lt_or_eq.mp hto with hearlier | rfl
        · exact hvalues index (by omega) hearlier
        · exact hlast.symm
      · rintro ⟨hreads, hvalues⟩
        exact ⟨(hvalues count (by omega) (by omega)).symm, by omega,
          fun index hfrom hto ↦ hvalues index (by omega) (by omega)⟩

/-- Where the statuses before left the wait open, an index concludes it with the verdict that all
statuses up to it come to. -/
theorem concludes_iff (hreads : config.doneReads.toNat ≠ 0) {last done nacks : Nat}
    (hcounted : Counted config (seen status last) done nacks) (out : Verdict) :
    Concludes config status last out ↔
      out = verdict config (seen status last ++ [status last]) ∧ out ≠ .undecided := by
  have htrailing : List.replicate config.doneReads.toNat i2cDone <:+
      seen status last ++ [status last] ↔ config.doneReads.toNat ≤ last + 1 ∧
        ∀ index, last < index + config.doneReads.toNat → index ≤ last →
          status index = i2cDone := by
    rw [← seen_succ, replicate_suffix_seen]
    simp only [Nat.succ_le_iff, Nat.lt_succ_iff]
  constructor
  · intro hconcludes
    cases hconcludes with
    | complete hlast hdone =>
      rw [verdict, if_pos ⟨hreads, htrailing.mpr ⟨hlast, hdone⟩⟩]
      exact ⟨rfl, by simp⟩
    | refused hnack hnacks =>
      rw [seen_succ, hnack, List.count_append, hcounted.refusals, List.count_singleton_self]
        at hnacks
      rw [hnack, hcounted.verdict_refused (by omega)]
      exact ⟨rfl, by simp⟩
    | unexpected hunknown =>
      rw [hcounted.verdict_unexpected hunknown]
      exact ⟨rfl, by simp⟩
  · rintro ⟨rfl, hdecided⟩
    by_cases hcomplete : List.replicate config.doneReads.toNat i2cDone <:+
        seen status last ++ [status last]
    · rw [verdict, if_pos ⟨hreads, hcomplete⟩]
      exact .complete (htrailing.mp hcomplete).1 (htrailing.mp hcomplete).2
    by_cases hunknown : status last ∉ knownStatuses
    · rw [hcounted.verdict_unexpected hunknown]
      exact .unexpected hunknown
    simp only [knownStatuses, List.mem_cons, List.not_mem_nil, or_false,
      Classical.not_not] at hunknown
    obtain hdone | hnack | hpending := hunknown
    · -- A completion that does not complete the wait leaves it open.
      rw [hdone, hcounted.trailing_done] at hcomplete
      rw [hdone] at hdecided
      exact absurd (hcounted.complete (by omega)).undecided hdecided
    · by_cases hnacks : config.nackLimit.toNat < nacks + 1
      · have hcount : (seen status (last + 1)).count i2cNack = config.nackLimit.toNat + 1 := by
          have htolerated := hcounted.tolerated
          rw [seen_succ, hnack, List.count_append, hcounted.refusals, List.count_singleton_self]
          omega
        have hrefused := Concludes.refused hnack hcount
        rw [hnack, hcounted.verdict_refused hnacks]
        exact hrefused
      · rw [hnack] at hdecided
        exact absurd (hcounted.refuse hnacks).undecided hdecided
    · rw [hpending] at hdecided
      exact absurd hcounted.pend.undecided hdecided

/-- No status of a stretch of the sequence decides the wait. -/
def LeftOpen (config : Config.Controller) (status : Nat → UInt32) (first count : Nat) : Prop :=
  ∀ index, first ≤ index → index < first + count → ∀ out, ¬Concludes config status index out

theorem LeftOpen.zero {first : Nat} : LeftOpen config status first 0 :=
  fun _ hfrom hto ↦ absurd hto (Nat.not_lt.mpr hfrom)

theorem LeftOpen.cons {first count : Nat} (hfirst : ∀ out, ¬Concludes config status first out)
    (hlater : LeftOpen config status (first + 1) count) :
    LeftOpen config status first (count + 1) := by
  intro index hfrom hto
  rcases Nat.eq_or_lt_of_le hfrom with rfl | hafter
  · exact hfirst
  · exact hlater index hafter (by omega)

theorem openPolls_succ (config : Config.Controller) (status : Nat → UInt32) (first count : Nat) :
    openPolls config status first (count + 1) =
      Event.read i2cStatus (status first) :: ⟨.delay config.pollInterval, ()⟩ ::
        openPolls config status (first + 1) count := rfl

theorem cons_prefix_sequence {value : UInt32} {values : List UInt32} {first count : Nat}
    (hvalues : value :: values <+: (List.range' first count).map status) :
    value = status first ∧ ∃ fewer, values <+: (List.range' (first + 1) fewer).map status := by
  cases count with
  | zero => simp at hvalues
  | succ fewer =>
    rw [List.range'_succ, List.map_cons, List.cons_prefix_cons] at hvalues
    exact ⟨hvalues.1, fewer, hvalues.2⟩

/-- The induction is on the polls that are left: they go on up to the first status that decides. -/
theorem poll_concludes (hreads : config.doneReads.toNat ≠ 0) {polls done nacks first count : Nat}
    (hcounted : Counted config (seen status first) done nacks) {events : List Event} {out : Verdict}
    (hplays : (poll config polls done nacks).Plays events out)
    (hreadings : readings events <+: (List.range' first count).map status) :
    ∃ passed, LeftOpen config status first passed ∧
      ((passed < polls ∧ (∀ other, Concludes config status (first + passed) other ↔ other = out) ∧
          events = openPolls config status first passed ++
            [Event.read i2cStatus (status (first + passed))]) ∨
        (passed = polls ∧ out = .undecided ∧ events = openPolls config status first polls)) := by
  induction polls generalizing done nacks first count events with
  | zero =>
    obtain ⟨rfl, rfl⟩ := (Program.plays_done _ _ _).mp hplays
    exact ⟨0, .zero, .inr ⟨rfl, rfl, rfl⟩⟩
  | succ polls ih =>
    obtain ⟨value, ⟨rfl, hout, hdecided⟩ | ⟨later, _, _, rfl, hgoes, hlater⟩⟩ :=
      plays_poll_succ config hcounted hplays
    · obtain ⟨rfl, -⟩ := cons_prefix_sequence hreadings
      have hconcludes (other : Verdict) : Concludes config status first other ↔ other = out := by
        rw [concludes_iff hreads hcounted, ← hout]
        exact and_iff_left_of_imp fun hsame ↦ hsame ▸ hdecided
      exact ⟨0, .zero, .inl ⟨polls.succ_pos, hconcludes, rfl⟩⟩
    · obtain ⟨rfl, fewer, hreadings⟩ := cons_prefix_sequence hreadings
      have hopen : ∀ out, ¬Concludes config status first out := fun out hconcludes ↦ by
        obtain ⟨hout, hdecided⟩ := (concludes_iff hreads hcounted out).mp hconcludes
        exact hdecided (hout.trans hgoes.undecided)
      rw [← seen_succ] at hgoes
      obtain ⟨passed, hpassed, hends⟩ := ih hgoes hlater hreadings
      refine ⟨passed + 1, .cons hopen hpassed, ?_⟩
      rw [openPolls_succ, openPolls_succ, show first + (passed + 1) = first + 1 + passed by omega]
      obtain ⟨hfew, hconcludes, rfl⟩ | ⟨rfl, hout, rfl⟩ := hends
      · exact .inl ⟨Nat.succ_lt_succ hfew, hconcludes, rfl⟩
      · exact .inr ⟨rfl, hout, rfl⟩

end Sequence

section Device

variable {σ : Type} (status : Nat → UInt32) (device : Handler Access.signature σ)

/-- Of the status nothing is read but what the sequence has next. -/
theorem readings_reporting {α : Type} (program : Hardware α) (index : Nat) (state : σ) :
    ∃ count, readings (program.trace (reporting status device) (index, state)) =
      (List.range' index count).map status := by
  induction program generalizing index state with
  | done value => exact ⟨0, rfl⟩
  | ask access next ih =>
    rw [Program.trace_ask]
    cases access with
    | read offset =>
      by_cases hoffset : offset = i2cStatus.offset
      · subst hoffset
        obtain ⟨count, hcount⟩ := ih (status index) (index + 1) state
        exact ⟨count + 1, congrArg (status index :: ·) hcount⟩
      · have hanswer : (reporting status device).answer (.read offset) (index, state) =
            ((device.answer (.read offset) state).1, index,
              (device.answer (.read offset) state).2) := if_neg hoffset
        have hsilent : reading ⟨.read offset, (device.answer (.read offset) state).1⟩ = none :=
          if_neg fun heq ↦ hoffset (congrArg Direct.offset heq)
        rw [hanswer, readings, List.filterMap_cons_none hsilent]
        exact ih _ index _
    | write offset value => exact ih _ _ _
    | delay microseconds => exact ih _ _ _
    | note entry => exact ih _ _ _

/-- On a device that reports a sequence of statuses, a wait settles like this behind its polls. -/
def SettlesOn (controller : Controller) (address : Address) (link : Link) (state : σ)
    (out : Verdict) (polls : List Event) : Prop :=
  let wait := (controller.wait address).run.run link
  let handler := reporting status device
  controller.Settles link address out polls (wait.trace handler (0, state))
    (wait.run handler (0, state)).1.1 (wait.run handler (0, state)).1.2

/-- The statuses that are read in a wait begin with those that its polls read. -/
theorem Settles.readings_polls {controller : Controller} {link left : Link} {address : Address}
    {out : Verdict} {polls events : List Event} {result : Except Error Unit}
    (hsettles : controller.Settles link address out polls events result left) :
    readings polls <+: readings events := by
  cases hsettles with
  | complete => exact ⟨_, (List.filterMap_append ..).symm⟩
  | abandoned _ hcause entry control => exact ⟨_, (List.filterMap_append ..).symm⟩

/-- Whatever sequence of statuses a device may report, a wait ends at the first index that
concludes it, if that is among its polls: there is a read and a delay for each index before, and
the read at that index, and it settles by the verdict there. Where no poll concludes it, there is a
read and a delay for each of them, and the verdict stays open. -/
theorem wait_first_conclusive (controller : Controller) (address : Address) (link : Link)
    (hreads : 0 < controller.config.doneReads.toNat) (state : σ) :
    (∀ last < controller.config.pollLimit.toNat, ∀ out,
      Concludes controller.config status last out →
      (∀ earlier < last, ∀ other, ¬Concludes controller.config status earlier other) →
      SettlesOn status device controller address link state out
        (openPolls controller.config status 0 last ++ [Event.read i2cStatus (status last)])) ∧
    ((∀ last < controller.config.pollLimit.toNat, ∀ out,
      ¬Concludes controller.config status last out) →
      SettlesOn status device controller address link state .undecided
        (openPolls controller.config status 0 controller.config.pollLimit.toNat)) := by
  obtain ⟨polls, out, hpoll, hsettles⟩ := plays_wait_polls (Program.plays_trace
    (reporting status device) ((controller.wait address).run.run link) (0, state))
  obtain ⟨count, hcount⟩ := readings_reporting status device
    ((controller.wait address).run.run link) 0 state
  have hpolls := hsettles.readings_polls
  rw [hcount] at hpolls
  have hstart : Counted controller.config (seen status 0) 0 0 := .start _
  obtain ⟨passed, hopen, hends⟩ := poll_concludes (Nat.ne_of_gt hreads) hstart hpoll hpolls
  simp only [Nat.zero_add] at hends
  constructor
  · intro last hlast final hfinal hfirst
    obtain ⟨-, hconcludes, rfl⟩ | ⟨rfl, -, -⟩ := hends
    · have hlate : last ≤ passed :=
        Nat.not_lt.mp fun hearly ↦ hfirst passed hearly out ((hconcludes out).mpr rfl)
      have hearly : passed ≤ last :=
        Nat.not_lt.mp fun hlate ↦ hopen last last.zero_le (by omega) final hfinal
      obtain rfl := Nat.le_antisymm hlate hearly
      obtain rfl := (hconcludes final).mp hfinal
      exact hsettles
    · exact absurd hfinal (hopen last last.zero_le (by omega) final)
  · intro hnever
    obtain ⟨hfew, hconcludes, -⟩ | ⟨-, rfl, rfl⟩ := hends
    · exact absurd ((hconcludes out).mpr rfl) (hnever passed hfew out)
    · exact hsettles

/-- A refusal, then completions with a pending status in between. -/
def interrupted (index : Nat) : UInt32 :=
  if index = 0 then i2cNack else if index = 3 then i2cPending else i2cDone

/-- The third completion in a row is the seventh status. -/
theorem wait_first_conclusive_interrupted :
    0 < ({} : Config.Controller).doneReads.toNat ∧
      SettlesOn interrupted completing ⟨{}, 0⟩ (.seven 0x50) {} () .complete
        (openPolls {} interrupted 0 6 ++ [Event.read i2cStatus (interrupted 6)]) := by
  have hreads : 0 < ({} : Config.Controller).doneReads.toNat := by decide
  have hthree : ({} : Config.Controller).doneReads.toNat = 3 := rfl
  have hlast : Concludes {} interrupted 6 .complete := by
    refine .complete (by decide) fun index hfrom hto ↦ ?_
    rw [interrupted, if_neg (by omega), if_neg (by omega)]
  have hfirst : ∀ earlier < 6, ∀ other, ¬Concludes {} interrupted earlier other := by
    intro earlier hearlier other hconcludes
    cases hconcludes with
    | complete hlate hdone =>
      rcases Nat.lt_or_ge earlier 3 with hbefore | hafter
      · exact absurd (hdone 0 (by omega) (by omega)) (by decide)
      · exact absurd (hdone 3 (by omega) (by omega)) (by decide)
    | refused hnack hnacks =>
      have hfew : ∀ earlier < 6, (seen interrupted (earlier + 1)).count i2cNack ≠ 4 := by decide
      exact hfew earlier hearlier hnacks
    | unexpected hunknown =>
      have hknown : ∀ earlier < 6, interrupted earlier ∈ knownStatuses := by decide
      exact hunknown (hknown earlier hearlier)
  exact ⟨hreads, (wait_first_conclusive interrupted completing ⟨{}, 0⟩ (.seven 0x50) {} hreads
    ()).1 6 (by decide) .complete hlast hfirst⟩

end Device

end I2c.Controller

end Scanout
