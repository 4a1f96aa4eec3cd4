import Scanout.I2c.BitBang
import Scanout.Proofs.Program.Plays

/-!
What the line-by-line master shows on the lines. Raising the clock has two outcomes, and which one
it is can be told from the samples: the clock was seen high (`Rises`), or it was seen low as often
as is waited for (`Stretched`). The pieces of a byte are put together from these, and so is the stop
(`Stops`), which drives the same levels whether or not the clock gets up.
-/

set_option autoImplicit false
set_option relaxedAutoImplicit false

namespace Scanout.I2c.BitBang

/-- What passes between the master and the lines. -/
abbrev Signal := Scanout.Exchange WireAccess.signature

namespace Signal

/-- The lines are driven. -/
def drive (levels : Levels) : Signal := ⟨.drive levels, ()⟩

/-- The lines are seen to be at some levels. -/
def sample (seen : Levels) : Signal := ⟨.sample, seen⟩

/-- Half a clock period passes. -/
def pause (config : Config.BitBang) : Signal := ⟨.delay config.halfPeriod, ()⟩

/-- Something is noted in the log. -/
def note (entry : Log.Entry) : Signal := ⟨.note entry, ()⟩

/-- What the lines are driven to. -/
def driven? (signal : Signal) : Option Levels :=
  match signal.request with
  | .drive levels => some levels
  | .sample | .delay _ | .note _ => none

end Signal

/-- The levels that the lines are driven to, in order. -/
def drives (signals : List Signal) : List Levels :=
  signals.filterMap Signal.driven?

theorem drives_append (early late : List Signal) :
    drives (early ++ late) = drives early ++ drives late :=
  List.filterMap_append

/-- Samples taken half a period apart. -/
def polled (config : Config.BitBang) (samples : List Levels) : List Signal :=
  samples.flatMap fun seen ↦ [Signal.sample seen, Signal.pause config]

@[simp] theorem drives_polled (config : Config.BitBang) (samples : List Levels) :
    drives (polled config samples) = [] := by
  induction samples with
  | nil => rfl
  | cons seen rest ih => exact ih

/-- A wait for a sample that is `ready`: one is seen within so many tries, or none is. -/
inductive Awaited (config : Config.BitBang) (ready : Levels → Bool) (tries : Nat) :
    List Signal → Bool → Prop
  | seen (samples : List Levels) {last : Levels} (hfew : samples.length < tries)
      (hbefore : ∀ seen ∈ samples, ready seen = false) (hlast : ready last = true) :
      Awaited config ready tries (polled config samples ++ [Signal.sample last]) true
  | never (samples : List Levels) (hall : samples.length = tries)
      (hnever : ∀ seen ∈ samples, ready seen = false) :
      Awaited config ready tries (polled config samples) false

/-- The clock is released and gets up in time. -/
def Rises (config : Config.BitBang) (data : Bool) (signals : List Signal) : Prop :=
  ∃ polls, Awaited config Levels.clock config.stretchTimeout.toNat polls true ∧
    signals = Signal.drive ⟨true, data⟩ :: polls

/-- What is noted of a slave that holds the clock for too long. -/
def stretchEntry (config : Config.BitBang) : Log.Entry where
  level := .warn
  text := s!"ddc: clock stretched past {config.stretchTimeout} half periods"

/-- The clock is released and then seen low as many times in a row as is waited for. -/
def Stretched (config : Config.BitBang) (data : Bool) (signals : List Signal) : Prop :=
  ∃ samples : List Levels, samples.length = config.stretchTimeout.toNat ∧
    (∀ seen ∈ samples, seen.clock = false) ∧
    signals = Signal.drive ⟨true, data⟩ :: polled config samples ++
      [Signal.note (stretchEntry config)]

/-- A bit is clocked out. -/
def Clocked (config : Config.BitBang) (bit : Bool) (signals : List Signal) : Prop :=
  ∃ rise, Rises config bit rise ∧
    signals = [Signal.drive ⟨false, bit⟩, Signal.pause config] ++ rise ++
      [Signal.pause config, Signal.drive ⟨false, bit⟩]

/-- Some bits are clocked out, one after the other. -/
inductive ClockedAll (config : Config.BitBang) : List Bool → List Signal → Prop
  | nil : ClockedAll config [] []
  | cons {bit : Bool} {rest : List Bool} {early late : List Signal}
      (hbit : Clocked config bit early) (hrest : ClockedAll config rest late) :
      ClockedAll config (bit :: rest) (early ++ late)

/-- The slot of an acknowledgement that does not come: the data line is released, and seen high as
many times as is waited for. -/
def Unanswered (config : Config.BitBang) (signals : List Signal) : Prop :=
  ∃ rise, Rises config true rise ∧ ∃ samples : List Levels,
    samples.length = config.ackTimeout.toNat ∧ (∀ seen ∈ samples, seen.data = true) ∧
    signals = [Signal.drive ⟨false, true⟩, Signal.pause config] ++ rise ++ polled config samples ++
      [Signal.drive ⟨false, true⟩]

/-- The stop condition, from the clock as it is. -/
def Stops (config : Config.BitBang) (clock : Bool) (signals : List Signal) : Prop :=
  ∃ rise, (Rises config false rise ∨ Stretched config false rise) ∧
    signals = [Signal.drive ⟨clock, false⟩, Signal.pause config] ++ rise ++
      [Signal.pause config, Signal.drive .released, Signal.pause config]

section Drives

variable {config : Config.BitBang} {signals : List Signal}

theorem Awaited.drives_eq {ready : Levels → Bool} {tries : Nat} {found : Bool}
    (hawaited : Awaited config ready tries signals found) : drives signals = [] := by
  cases hawaited with
  | seen => rw [drives_append, drives_polled]; rfl
  | never samples => exact drives_polled _ samples

theorem Rises.drives_eq {data : Bool} (hrises : Rises config data signals) :
    drives signals = [⟨true, data⟩] := by
  obtain ⟨polls, hpolls, rfl⟩ := hrises
  exact congrArg (⟨true, data⟩ :: ·) hpolls.drives_eq

theorem Stretched.drives_eq {data : Bool} (hstretched : Stretched config data signals) :
    drives signals = [⟨true, data⟩] := by
  obtain ⟨samples, -, -, rfl⟩ := hstretched
  rw [drives_append, ← List.singleton_append, drives_append, drives_polled]
  rfl

/-- A stop pulls the data line low, releases the clock, and then the data line. -/
theorem Stops.drives_eq {clock : Bool} (hstops : Stops config clock signals) :
    drives signals = [⟨clock, false⟩, ⟨true, false⟩, .released] := by
  obtain ⟨rise, hrise, rfl⟩ := hstops
  have hrise : drives rise = [⟨true, false⟩] := hrise.elim Rises.drives_eq Stretched.drives_eq
  rw [drives_append, drives_append, hrise]
  rfl

end Drives

/-!
What each of the steps plays.
-/

section Steps

variable {config : Config.BitBang} {master : Master} {signals : List Signal}

theorem plays_drive (levels : Levels) (out : Unit) :
    (Wires.drive levels).Plays signals out ↔ signals = [Signal.drive levels] :=
  Program.plays_perform _ _ _

theorem plays_sample (seen : Levels) :
    Wires.sample.Plays signals seen ↔ signals = [Signal.sample seen] :=
  Program.plays_perform _ _ _

theorem plays_halfPeriod (out : Unit) :
    (halfPeriod config).Plays signals out ↔ signals = [Signal.pause config] :=
  Program.plays_perform _ _ _

theorem plays_note (level : Log.Level) (text : String) (out : Unit) :
    (Wires.note level text).Plays signals out ↔ signals = [Signal.note { level, text }] :=
  Program.plays_perform _ _ _

/-- The master keeps the levels that it drives. -/
theorem plays_set (levels : Levels) (out : Unit × Master) :
    ((do
      modify fun master => { master with levels }
      Wires.drive levels : Step Unit).run master).Plays signals out ↔
      signals = [Signal.drive levels] ∧ out = ((), { master with levels }) := by
  obtain ⟨_, left⟩ := out
  simp only [plays_step_bind, plays_step_modify, plays_step_lift, plays_drive, Prod.mk.injEq]
  constructor
  · rintro ⟨_, _, _, _, rfl, ⟨rfl, -, rfl⟩, rfl, rfl⟩
    exact ⟨rfl, trivial, rfl⟩
  · rintro ⟨rfl, -, rfl⟩
    exact ⟨[], _, (), _, rfl, ⟨rfl, trivial, rfl⟩, rfl, rfl⟩

theorem plays_setData (high : Bool) (out : Unit × Master) :
    ((setData high).run master).Plays signals out ↔
      signals = [Signal.drive ⟨master.levels.clock, high⟩] ∧
        out = ((), { master with levels := ⟨master.levels.clock, high⟩ }) :=
  plays_set _ _

theorem plays_setClock (high : Bool) (out : Unit × Master) :
    ((setClock high).run master).Plays signals out ↔
      signals = [Signal.drive ⟨high, master.levels.data⟩] ∧
        out = ((), { master with levels := ⟨high, master.levels.data⟩ }) :=
  plays_set _ _

/-- One try more: the sample is ready, or the wait goes on after half a period. -/
theorem Awaited.step {ready : Levels → Bool} {tries : Nat} {rest : Wires Bool} {found : Bool}
    (hrest : ∀ {late}, rest.Plays late found → Awaited config ready tries late found)
    (hplays : (do
      let seen ← Wires.sample
      if ready seen then
        return true
      halfPeriod config
      rest).Plays signals found) :
    Awaited config ready (tries + 1) signals found := by
  simp only [Program.bind_eq, Program.plays_bind, plays_sample] at hplays
  obtain ⟨_, _, seen, rfl, rfl, hgoes⟩ := hplays
  split at hgoes
  · rename_i hready
    obtain ⟨rfl, rfl⟩ := (Program.plays_done _ _ _).mp hgoes
    exact .seen [] (Nat.succ_pos tries) (by simp) hready
  · rename_i hunready
    simp only [Program.plays_bind, plays_halfPeriod] at hgoes
    obtain ⟨_, _, _, rfl, rfl, hlate⟩ := hgoes
    have hunready : ready seen = false := by simpa using hunready
    cases hrest hlate with
    | seen samples hfew hbefore hlast =>
      exact .seen (seen :: samples) (Nat.succ_lt_succ hfew)
        (List.forall_mem_cons.mpr ⟨hunready, hbefore⟩) hlast
    | never samples hall hnever =>
      exact .never (seen :: samples) (congrArg (· + 1) hall)
        (List.forall_mem_cons.mpr ⟨hunready, hnever⟩)

/-- Whatever is waited for in so many tries. -/
theorem Awaited.of_plays {ready : Levels → Bool} {await : Nat → Wires Bool}
    (hnone : await 0 = return false)
    (hmore : ∀ tries, await (tries + 1) = do
      let seen ← Wires.sample
      if ready seen then
        return true
      halfPeriod config
      await tries)
    {tries : Nat} {found : Bool} (hplays : (await tries).Plays signals found) :
    Awaited config ready tries signals found := by
  induction tries generalizing signals with
  | zero =>
    rw [hnone] at hplays
    obtain ⟨rfl, rfl⟩ := (Program.plays_done _ _ _).mp hplays
    exact .never [] rfl (by simp)
  | succ tries ih =>
    rw [hmore] at hplays
    exact .step ih hplays

theorem plays_awaitClock {tries : Nat} {found : Bool}
    (hplays : (awaitClock config tries).Plays signals found) :
    Awaited config Levels.clock tries signals found :=
  .of_plays rfl (fun _ ↦ rfl) hplays

theorem plays_awaitAcknowledge {tries : Nat} {found : Bool}
    (hplays : (awaitAcknowledge config tries).Plays signals found) :
    Awaited config (fun seen ↦ !seen.data) tries signals found :=
  .of_plays rfl (fun _ ↦ rfl) hplays

/-- The master releases the clock, whether or not the line gets up. -/
theorem plays_clockHigh {result : Except Error Unit} {left : Master}
    (hplays : ((clockHigh config).run.run master).Plays signals (result, left)) :
    left = { master with levels := ⟨true, master.levels.data⟩ } ∧
      (result = .ok () ∧ Rises config master.levels.data signals ∨
        result = .error .clockStretch ∧ Stretched config master.levels.data signals) := by
  simp only [clockHigh, plays_exchange_step_bind, plays_setClock,
    plays_exchange_lift_bind] at hplays
  obtain ⟨_, _, _, _, rfl, ⟨rfl, heq⟩, polls, late, found, rfl, hpolls, hrest⟩ := hplays
  cases heq
  have hpolls := plays_awaitClock hpolls
  cases found with
  | true =>
    obtain ⟨rfl, rfl, rfl⟩ := (plays_exchange_pure _ _ _).mp hrest
    exact ⟨rfl, .inl ⟨rfl, polls, hpolls, by simp⟩⟩
  | false =>
    simp only [Bool.not_false, if_true, plays_exchange_lift_bind, plays_note,
      plays_exchange_throw] at hrest
    obtain ⟨_, _, _, rfl, rfl, rfl, rfl, rfl⟩ := hrest
    cases hpolls with
    | never samples hall hnever => exact ⟨rfl, .inr ⟨rfl, samples, hall, hnever, rfl⟩⟩

/-- What comes after the clock is raised is left out where the clock does not get up. -/
theorem plays_clockHigh_bind {α : Type} {rest : Unit → Exchange α} {result : Except Error α}
    {left : Master}
    (hplays : ((clockHigh config >>= rest).run.run master).Plays signals (result, left)) :
    (∃ rise late, Rises config master.levels.data rise ∧ signals = rise ++ late ∧
      ((rest ()).run.run { master with levels := ⟨true, master.levels.data⟩ }).Plays late
        (result, left)) ∨
    result = .error .clockStretch ∧ Stretched config master.levels.data signals ∧
      left = { master with levels := ⟨true, master.levels.data⟩ } := by
  obtain ⟨rise, late, _, _, rfl, hrise, hrest⟩ | ⟨cause, hrise, rfl⟩ :=
    (plays_exchange_bind _ _ _ _).mp hplays
  · obtain ⟨rfl, ⟨-, hrises⟩ | ⟨heq, -⟩⟩ := plays_clockHigh hrise
    · exact .inl ⟨rise, late, hrises, rfl, hrest⟩
    · cases heq
  · obtain ⟨rfl, ⟨heq, -⟩ | ⟨heq, hstretched⟩⟩ := plays_clockHigh hrise
    · cases heq
    · cases heq
      exact .inr ⟨rfl, hstretched, rfl⟩

/-- The stop is made from any levels, and whether or not the clock gets up. -/
theorem plays_stop {out : Unit × Master} (hplays : ((stop config).run master).Plays signals out) :
    Stops config master.levels.clock signals ∧ out.2 = { master with levels := .released } := by
  simp only [stop, plays_step_bind, plays_step_lift, plays_setData, plays_halfPeriod,
    Prod.mk.injEq] at hplays
  obtain ⟨_, _, _, _, rfl, ⟨rfl, -, rfl⟩, _, _, _, _, rfl, ⟨rfl, rfl⟩, rise, _, _, _, rfl, hrise,
    _, _, _, _, rfl, ⟨rfl, rfl⟩, _, _, _, _, rfl, ⟨rfl, -, rfl⟩, rfl, hleft⟩ := hplays
  obtain ⟨rfl, hrises⟩ := plays_clockHigh hrise
  exact ⟨⟨rise, hrises.imp And.right And.right, by simp [Levels.released]⟩, hleft⟩

end Steps

end Scanout.I2c.BitBang
