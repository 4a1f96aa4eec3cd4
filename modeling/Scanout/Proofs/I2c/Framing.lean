import Scanout.Proofs.I2c.Bits
import Scanout.Proofs.I2c.Observer
import Scanout.Proofs.Program.Contract

/-!
The line-by-line master speaks the bus protocol. Whatever the lines answer, a transfer that
succeeds looks to an observer like the frame of its phases.

`Leads` and `Achieves` are the weakest preconditions of a step and of an exchange while the
observer watches; they unfold the straight-line code of a bit. Above the bits an exchange is
described by the signs that it adds and the bytes that it takes in (`Frames`). Between two bits the
clock is low (`Held`), so a sequence of exchanges adds the signs of its parts.
-/

set_option autoImplicit false
set_option relaxedAutoImplicit false

namespace Scanout.I2c.BitBang

variable {α β : Type}

/-- Whatever is answered, the observer sees the step end in the postcondition. -/
def Leads (post : α → Master → Observer → Prop) (step : Step α) (master : Master)
    (observer : Observer) : Prop :=
  (step.run master).Meets (.watching Observer.see) (fun out later ↦ post out.1 out.2 later) observer

/-- What is asked of an outcome: nothing of a failure. -/
def Lands (post : α → Master → Observer → Prop) :
    Except Error α → Master → Observer → Prop
  | .ok value => post value
  | .error _ => fun _ _ ↦ True

/-- Whatever is answered, the observer sees the exchange end in the postcondition, unless it
fails. -/
def Achieves (post : α → Master → Observer → Prop) (exchange : Exchange α) (master : Master)
    (observer : Observer) : Prop :=
  Leads (Lands post) exchange.run master observer

section Calculus

variable {post weaker : α → Master → Observer → Prop} {master : Master} {observer : Observer}

theorem Leads.mono {step : Step α} (hleads : Leads post step master observer)
    (himp : ∀ value left later, post value left later → weaker value left later) :
    Leads weaker step master observer :=
  Program.Meets.mono hleads fun out later ↦ himp out.1 out.2 later

theorem Achieves.mono {exchange : Exchange α} (hachieves : Achieves post exchange master observer)
    (himp : ∀ value left later, post value left later → weaker value left later) :
    Achieves weaker exchange master observer := by
  refine Leads.mono hachieves fun result left later hpost ↦ ?_
  cases result with
  | ok value => exact himp value left later hpost
  | error cause => trivial

theorem leads_pure (value : α) :
    Leads post (pure value) master observer ↔ post value master observer :=
  Program.meets_done _ _

theorem leads_bind (step : Step α) (rest : α → Step β) (goal : β → Master → Observer → Prop) :
    Leads goal (step >>= rest) master observer ↔
      Leads (fun value left later ↦ Leads goal (rest value) left later) step master observer :=
  Program.meets_bind _ _ _ _

theorem leads_lift (program : Wires α) :
    Leads post (liftM program) master observer ↔
      program.Meets (.watching Observer.see) (fun value later ↦ post value master later)
        observer := by
  refine (Program.meets_bind _ _ _ _).trans ?_
  simp only [Program.pure_eq, Program.meets_done]
  exact Iff.rfl

/-- An exchange goes on where it succeeded and stops where it failed. -/
theorem leads_run_bind (exchange : Exchange α) (rest : α → Exchange β)
    (goal : Except Error β → Master → Observer → Prop) :
    Leads goal (exchange >>= rest).run master observer ↔
      Leads (fun result left later ↦
          match result with
          | .ok value => Leads goal (rest value).run left later
          | .error cause => goal (.error cause) left later)
        exchange.run master observer := by
  refine (leads_bind _ _ _).trans (iff_of_eq (congrArg (Leads · _ _ _) ?_))
  funext result left later
  cases result with
  | ok value => rfl
  | error cause => exact propext (leads_pure _)

theorem leads_run_step (step : Step α) (goal : Except Error α → Master → Observer → Prop) :
    Leads goal (liftM step : Exchange α).run master observer ↔
      Leads (fun value left later ↦ goal (.ok value) left later) step master observer := by
  refine (leads_bind step (fun value ↦ pure (.ok value)) goal).trans ?_
  simp only [leads_pure]

theorem leads_run_lift (program : Wires α) (goal : Except Error α → Master → Observer → Prop) :
    Leads goal (liftM program : Exchange α).run master observer ↔
      program.Meets (.watching Observer.see) (fun value later ↦ goal (.ok value) master later)
        observer :=
  (leads_run_step (liftM program) goal).trans (leads_lift program)

/-- Waiting does not show. -/
theorem meets_halfPeriod (config : Config.BitBang) (rest : Unit → Wires α)
    (goal : α → Observer → Prop) :
    ((halfPeriod config).bind rest).Meets (.watching Observer.see) goal observer ↔
      (rest ()).Meets (.watching Observer.see) goal observer := by
  rw [halfPeriod, Wires.delay, Program.ask_bind, Program.meets_ask]
  exact ⟨fun hrest ↦ hrest (), fun hrest _ ↦ hrest⟩

theorem meets_sample (rest : Levels → Wires α) (goal : α → Observer → Prop) :
    (Wires.sample.bind rest).Meets (.watching Observer.see) goal observer ↔
      ∀ seen, (rest seen).Meets (.watching Observer.see) goal
        (observer.note (some seen.data)) := by
  rw [Wires.sample, Program.ask_bind, Program.meets_ask]
  exact Iff.rfl

theorem leads_halfPeriod (config : Config.BitBang) (post : Unit → Master → Observer → Prop) :
    Leads post (liftM (halfPeriod config)) master observer ↔ post () master observer := by
  rw [leads_lift, ← Program.bind_done (halfPeriod config), meets_halfPeriod, Program.meets_done]

theorem leads_sample (post : Levels → Master → Observer → Prop) :
    Leads post (liftM Wires.sample) master observer ↔
      ∀ seen, post seen master (observer.note (some seen.data)) := by
  rw [leads_lift, ← Program.bind_done Wires.sample, meets_sample]
  simp only [Program.meets_done]

/-- Driving the lines is what the observer sees of both line settings. -/
theorem leads_drive (levels : Levels) (post : Unit → Master → Observer → Prop) :
    Leads post (do modify fun master => { master with levels }; Wires.drive levels)
        master observer ↔
      post () { master with levels } (observer.drive levels) := by
  rw [leads_bind, show Leads _ (modify fun master : Master => { master with levels }) _ _ ↔ _
    from Program.meets_done _ _, leads_lift, Wires.drive, Program.meets_ask]
  simp only [Program.meets_done]
  exact ⟨fun hpost ↦ hpost (), fun hpost _ ↦ hpost⟩

theorem leads_setData (high : Bool) (post : Unit → Master → Observer → Prop) :
    Leads post (setData high) master observer ↔
      post () { master with levels := ⟨master.levels.clock, high⟩ }
        (observer.drive ⟨master.levels.clock, high⟩) :=
  (leads_bind _ _ _).trans ((Program.meets_done _ _).trans (leads_drive _ post))

theorem leads_setClock (high : Bool) (post : Unit → Master → Observer → Prop) :
    Leads post (setClock high) master observer ↔
      post () { master with levels := ⟨high, master.levels.data⟩ }
        (observer.drive ⟨high, master.levels.data⟩) :=
  (leads_bind _ _ _).trans ((Program.meets_done _ _).trans (leads_drive _ post))

theorem achieves_pure (value : α) :
    Achieves post (pure value) master observer ↔ post value master observer :=
  leads_pure _

theorem achieves_throw (cause : Error) :
    Achieves post (throw cause : Exchange α) master observer ↔ True :=
  leads_pure _

theorem achieves_step (step : Step α) :
    Achieves post (liftM step) master observer ↔ Leads post step master observer :=
  leads_run_step step (Lands post)

theorem achieves_lift (program : Wires α) :
    Achieves post (liftM program) master observer ↔
      program.Meets (.watching Observer.see) (fun value later ↦ post value master later) observer :=
  leads_run_lift program (Lands post)

theorem achieves_bind (exchange : Exchange α) (rest : α → Exchange β)
    (goal : β → Master → Observer → Prop) :
    Achieves goal (exchange >>= rest) master observer ↔
      Achieves (fun value left later ↦ Achieves goal (rest value) left later)
        exchange master observer := by
  refine (leads_run_bind _ _ _).trans (iff_of_eq (congrArg (Leads · _ _ _) ?_))
  funext result left later
  cases result <;> rfl

theorem achieves_setData (high : Bool) (post : Unit → Master → Observer → Prop) :
    Achieves post (liftM (setData high)) master observer ↔
      post () { master with levels := ⟨master.levels.clock, high⟩ }
        (observer.drive ⟨master.levels.clock, high⟩) :=
  (achieves_step _).trans (leads_setData high post)

theorem achieves_setClock (high : Bool) (post : Unit → Master → Observer → Prop) :
    Achieves post (liftM (setClock high)) master observer ↔
      post () { master with levels := ⟨high, master.levels.data⟩ }
        (observer.drive ⟨high, master.levels.data⟩) :=
  (achieves_step _).trans (leads_setClock high post)

theorem achieves_sample (post : Levels → Master → Observer → Prop) :
    Achieves post (liftM Wires.sample) master observer ↔
      ∀ seen, post seen master (observer.note (some seen.data)) :=
  (achieves_step _).trans (leads_sample post)

theorem achieves_halfPeriod (config : Config.BitBang) (post : Unit → Master → Observer → Prop) :
    Achieves post (liftM (halfPeriod config)) master observer ↔ post () master observer :=
  (achieves_step _).trans (leads_halfPeriod config post)

end Calculus

/-!
Waiting on the lines only changes what was sampled last.
-/

theorem meets_awaitClock (config : Config.BitBang) (tries : Nat) (observer : Observer) :
    (awaitClock config tries).Meets (.watching Observer.see)
      (fun _ later ↦ ∃ sampled, later = observer.note sampled) observer := by
  induction tries generalizing observer with
  | zero => exact .done ⟨observer.sampled, rfl⟩
  | succ tries ih =>
    rw [awaitClock, Program.bind_eq, meets_sample]
    intro seen
    split
    · exact .done ⟨some seen.data, rfl⟩
    · exact (meets_halfPeriod _ _ _).mpr (by simpa using ih (observer.note (some seen.data)))

/-- Where the wait comes to an end, the data line was low. -/
theorem meets_awaitAcknowledge (config : Config.BitBang) (tries : Nat) (observer : Observer) :
    (awaitAcknowledge config tries).Meets (.watching Observer.see)
      (fun acknowledged later ↦ ∃ sampled, later = observer.note sampled ∧
        (acknowledged = true → sampled = some false)) observer := by
  induction tries generalizing observer with
  | zero => exact .done ⟨observer.sampled, rfl, fun h ↦ nomatch h⟩
  | succ tries ih =>
    rw [awaitAcknowledge, Program.bind_eq, meets_sample]
    intro seen
    split
    · rename_i hlow
      exact .done ⟨some seen.data, rfl, fun _ ↦ by simpa using hlow⟩
    · exact (meets_halfPeriod _ _ _).mpr (by simpa using ih (observer.note (some seen.data)))

/-- The clock goes up, whether or not a slave lets go of it in time. -/
theorem leads_clockHigh (config : Config.BitBang) (master : Master) (observer : Observer) :
    Leads (fun _ left later ↦ left = { master with levels := ⟨true, master.levels.data⟩ } ∧
        ∃ sampled, later = (observer.drive ⟨true, master.levels.data⟩).note sampled)
      (clockHigh config).run master observer := by
  unfold clockHigh
  rw [leads_run_bind, leads_run_step, leads_setClock]
  dsimp only
  rw [leads_run_bind, leads_run_lift]
  refine (meets_awaitClock config _ _).mono ?_
  rintro seen later ⟨sampled, rfl⟩
  dsimp only
  split
  · rw [leads_run_bind, leads_run_lift, Wires.note, Program.meets_ask]
    exact fun _ ↦ (Program.meets_done _ _).mpr ((leads_pure _).mpr ⟨rfl, sampled, rfl⟩)
  · exact (leads_pure _).mpr ⟨rfl, sampled, rfl⟩

theorem achieves_clockHigh (config : Config.BitBang) {master : Master} {observer : Observer}
    {post : Unit → Master → Observer → Prop}
    (hpost : ∀ sampled, post () { master with levels := ⟨true, master.levels.data⟩ }
      ((observer.drive ⟨true, master.levels.data⟩).note sampled)) :
    Achieves post (clockHigh config) master observer := by
  refine (leads_clockHigh config master observer).mono ?_
  rintro result left later ⟨rfl, sampled, rfl⟩
  cases result with
  | ok value => exact hpost sampled
  | error cause => trivial

/-!
Exchanges by the signs that they add.
-/

/-- The observer saw the lines last as the master holds them, with the clock low. -/
structure Held (master : Master) (observer : Observer) : Prop where
  levels : observer.levels = master.levels
  low : master.levels.clock = false

/-- The observer saw the lines last as the master holds them, and raising the data line is no
sign. -/
structure Open (master : Master) (observer : Observer) : Prop where
  levels : observer.levels = master.levels
  quiet : master.levels.clock = true → master.levels.data = true

theorem Held.open {master : Master} {observer : Observer} (hheld : Held master observer) :
    Open master observer where
  levels := hheld.levels
  quiet hclock := by simp [hheld.low] at hclock

/-- The signs were added to those seen before. -/
def Shown (signs : List Sign) (before after : Observer) : Prop :=
  ∃ symbols, after.symbols = before.symbols ++ symbols ∧ List.Forall₂ Sign.Shows signs symbols

theorem Shown.trans {early late : List Sign} {before middle after : Observer}
    (hearly : Shown early before middle) (hlate : Shown late middle after) :
    Shown (early ++ late) before after := by
  obtain ⟨first, hfirst, hshown⟩ := hearly
  obtain ⟨second, hsecond, hshown'⟩ := hlate
  refine ⟨first ++ second, ?_, List.rel_append hshown hshown'⟩
  rw [hsecond, hfirst, List.append_assoc]

/-- Where the exchange succeeds, it took in some bytes and added some signs as the goal says, and
left the clock low. -/
def Frames (entry : Master → Observer → Prop) (goal : α → List UInt8 → List Sign → Prop)
    (exchange : Exchange α) : Prop :=
  ∀ master observer, entry master observer →
    Achieves (fun value left later ↦ ∃ bytes signs, goal value bytes signs ∧
        left.received = master.received ++ bytes ∧ Held left later ∧ Shown signs observer later)
      exchange master observer

namespace Frames

variable {entry : Master → Observer → Prop} {goal : α → List UInt8 → List Sign → Prop}

theorem pure {value : α} (hgoal : goal value [] []) : Frames Held goal (pure value) := by
  intro master observer hheld
  rw [achieves_pure]
  exact ⟨[], [], hgoal, by simp, hheld, [], by simp, .nil⟩

theorem mono {exchange : Exchange α} {weaker : α → List UInt8 → List Sign → Prop}
    (hexchange : Frames entry goal exchange)
    (himp : ∀ value bytes signs, goal value bytes signs → weaker value bytes signs) :
    Frames entry weaker exchange := by
  intro master observer hentry
  refine (hexchange master observer hentry).mono ?_
  rintro value left later ⟨bytes, signs, hgoal, hrest⟩
  exact ⟨bytes, signs, himp value bytes signs hgoal, hrest⟩

theorem narrow {exchange : Exchange α} (hexchange : Frames Open goal exchange) :
    Frames Held goal exchange :=
  fun master observer hheld ↦ hexchange master observer hheld.open

theorem throw (cause : Error) : Frames entry goal (throw cause) :=
  fun _ _ _ ↦ (achieves_throw cause).mpr trivial

/-- A byte that is taken in shows no sign of its own. -/
theorem take (byte : UInt8) :
    Frames Held (fun _ bytes signs ↦ bytes = [byte] ∧ signs = [])
      (modify fun master => { master with received := master.received ++ [byte] }) := by
  intro master observer hheld
  refine (achieves_step _).mpr ((Program.meets_done _ _).mpr ?_)
  exact ⟨[byte], [], ⟨rfl, rfl⟩, rfl, ⟨hheld.levels, hheld.low⟩, [], by simp, .nil⟩

/-- A sequence takes in the bytes and adds the signs of its parts. -/
theorem bind {exchange : Exchange α} {rest : α → Exchange β}
    {final : β → List UInt8 → List Sign → Prop} (hexchange : Frames entry goal exchange)
    (hrest : ∀ value early signs, goal value early signs →
      Frames Held (fun out late more ↦ final out (early ++ late) (signs ++ more)) (rest value)) :
    Frames entry final (exchange >>= rest) := by
  intro master observer hentry
  rw [achieves_bind]
  refine (hexchange master observer hentry).mono ?_
  rintro value middle seen ⟨early, signs, hgoal, hearly, hheld, hsigns⟩
  refine (hrest value early signs hgoal middle seen hheld).mono ?_
  rintro out left later ⟨late, more, hfinal, hlate, hheld, hmore⟩
  refine ⟨early ++ late, signs ++ more, hfinal, ?_, hheld, hsigns.trans hmore⟩
  rw [hlate, hearly, List.append_assoc]

end Frames

theorem start_frames (config : Config.BitBang) :
    Frames Open (fun _ bytes signs ↦ bytes = [] ∧ signs = [.start]) (start config) := by
  rintro ⟨⟨clock, data⟩, received⟩ ⟨_, whole, sampled, symbols⟩ ⟨rfl, hquiet⟩
  unfold start
  simp only [achieves_bind, achieves_setData, achieves_setClock, achieves_halfPeriod]
  refine achieves_clockHigh config fun sampled ↦ ?_
  refine ⟨[], [.start], ⟨rfl, rfl⟩, by simp, ⟨?_, rfl⟩, [.start], ?_, .cons trivial .nil⟩
  · cases clock <;> cases data <;> simp_all [Observer.drive, Observer.note]
  · cases clock <;> cases data <;> simp_all [Observer.drive, Observer.note]

theorem writeBit_frames (config : Config.BitBang) (bit : Bool) :
    Frames Held (fun _ bytes signs ↦ bytes = [] ∧ signs = [.put bit]) (writeBit config bit) := by
  rintro ⟨⟨clock, data⟩, received⟩ ⟨_, whole, sampled, symbols⟩ ⟨rfl, rfl⟩
  unfold writeBit
  simp only [achieves_bind, achieves_setData, achieves_setClock, achieves_halfPeriod]
  refine achieves_clockHigh config fun sampled ↦ ?_
  exact ⟨[], [.put bit], ⟨rfl, rfl⟩, by simp, ⟨rfl, rfl⟩, [.pulse bit sampled], rfl,
    .cons rfl .nil⟩

theorem readBit_frames (config : Config.BitBang) :
    Frames Held (fun bit bytes signs ↦ bytes = [] ∧ signs = [.get bit]) (readBit config) := by
  rintro ⟨⟨clock, data⟩, received⟩ ⟨_, whole, sampled, symbols⟩ ⟨rfl, rfl⟩
  unfold readBit
  simp only [achieves_bind, achieves_setData, achieves_setClock, achieves_halfPeriod]
  refine achieves_clockHigh config fun sampled ↦ ?_
  rw [achieves_sample]
  intro seen
  exact (achieves_pure _).mpr ⟨[], [.get seen.data], ⟨rfl, rfl⟩, by simp, ⟨rfl, rfl⟩,
    [.pulse true (some seen.data)], rfl, .cons ⟨rfl, rfl⟩ .nil⟩

theorem writeBits_frames (config : Config.BitBang) (bits : List Bool) :
    Frames Held (fun _ bytes signs ↦ bytes = [] ∧ signs = bits.map .put)
      (writeBits config bits) := by
  induction bits with
  | nil => exact .pure ⟨rfl, rfl⟩
  | cons bit rest ih =>
    refine .bind (writeBit_frames config bit) ?_
    rintro _ _ _ ⟨rfl, rfl⟩
    refine ih.mono ?_
    rintro _ _ _ ⟨rfl, rfl⟩
    exact ⟨rfl, rfl⟩

theorem readBits_frames (config : Config.BitBang) (count : Nat) (byte : UInt8) :
    Frames Held (fun out bytes signs ↦ bytes = [] ∧ ∃ samples : List Bool,
        samples.length = count ∧ signs = samples.map .get ∧ out = samples.foldl shiftIn byte)
      (readBits config count byte) := by
  induction count generalizing byte with
  | zero => exact .pure ⟨rfl, [], rfl, rfl, rfl⟩
  | succ count ih =>
    refine .bind (readBit_frames config) ?_
    rintro bit _ _ ⟨rfl, rfl⟩
    refine (ih _).mono ?_
    rintro out _ _ ⟨rfl, samples, hlength, rfl, rfl⟩
    exact ⟨rfl, bit :: samples, by rw [List.length_cons, hlength], rfl, rfl⟩

/-- In the slot after a byte the line is released. Where the slave acknowledges the byte, the
master saw the line low there. -/
theorem writeByte_frames (config : Config.BitBang) (byte : UInt8) :
    Frames Held (fun acknowledged bytes signs ↦ bytes = [] ∧
        (acknowledged = true → signs = Frame.written byte)) (writeByte config byte) := by
  refine .bind (writeBits_frames config _) ?_
  rintro _ _ _ ⟨rfl, rfl⟩ ⟨⟨clock, data⟩, received⟩ ⟨_, whole, sampled, symbols⟩ ⟨rfl, rfl⟩
  simp only [achieves_bind, achieves_setData, achieves_setClock, achieves_halfPeriod]
  refine achieves_clockHigh config fun _ ↦ ?_
  refine (achieves_lift _).mpr ((meets_awaitAcknowledge config _ _).mono ?_)
  rintro acknowledged later ⟨sampled, rfl, hlow⟩
  rw [achieves_pure]
  have hshown :
      Sign.Shows (if acknowledged then .get false else .put true) (.pulse true sampled) := by
    cases acknowledged with
    | true => exact ⟨rfl, hlow rfl⟩
    | false => rfl
  refine ⟨[], [if acknowledged then .get false else .put true], ⟨rfl, ?_⟩, by simp, ⟨rfl, rfl⟩,
    [.pulse true sampled], rfl, .cons hshown .nil⟩
  rintro rfl
  rfl

theorem send_frames (config : Config.BitBang) (address : Address) (byte : UInt8) :
    Frames Held (fun _ bytes signs ↦ bytes = [] ∧ signs = Frame.written byte)
      (send config address byte) := by
  refine .bind (writeByte_frames config byte) ?_
  rintro acknowledged _ signs ⟨rfl, hsigns⟩
  cases acknowledged with
  | true => exact .pure ⟨rfl, by simpa using hsigns rfl⟩
  | false => exact .throw _

theorem sendAll_frames (config : Config.BitBang) (address : Address) (bytes : List UInt8) :
    Frames Held (fun _ taken signs ↦ taken = [] ∧ signs = bytes.flatMap Frame.written)
      (sendAll config address bytes) := by
  induction bytes with
  | nil => exact .pure ⟨rfl, rfl⟩
  | cons byte rest ih =>
    refine .bind (send_frames config address byte) ?_
    rintro _ _ _ ⟨rfl, rfl⟩
    refine ih.mono ?_
    rintro _ _ _ ⟨rfl, rfl⟩
    exact ⟨rfl, rfl⟩

theorem select_frames (config : Config.BitBang) (address : Address) (direction : Direction) :
    Frames Open (fun _ bytes signs ↦ bytes = [] ∧ signs = Frame.opening address direction)
      (select config address direction) := by
  refine .bind (start_frames config) ?_
  rintro _ _ _ ⟨rfl, rfl⟩
  have hplain : Frames Held (fun _ bytes signs ↦ [] ++ bytes = [] ∧ [Sign.start] ++ signs =
      .start :: (address.header direction).flatMap Frame.written)
      (sendAll config address (address.header direction)) := by
    refine (sendAll_frames config address _).mono ?_
    rintro _ _ _ ⟨rfl, rfl⟩
    exact ⟨rfl, rfl⟩
  cases address with
  | seven value => cases direction <;> exact hplain
  | ten value =>
    cases direction with
    | write => exact hplain
    | read =>
      refine .bind (sendAll_frames config _ _) ?_
      rintro _ _ _ ⟨rfl, rfl⟩
      refine .bind (.narrow (start_frames config)) ?_
      rintro _ _ _ ⟨rfl, rfl⟩
      refine (send_frames config _ _).mono ?_
      rintro _ _ _ ⟨rfl, rfl⟩
      exact ⟨rfl, by simp [Frame.opening]⟩

theorem readByte_frames (config : Config.BitBang) (acknowledge : Bool) :
    Frames Held (fun byte bytes signs ↦ bytes = [] ∧ signs = Frame.fetched byte acknowledge)
      (readByte config acknowledge) := by
  refine .bind (readBits_frames config 8 0) ?_
  rintro _ _ _ ⟨rfl, samples, hlength, rfl, rfl⟩
  refine .bind (writeBit_frames config _) ?_
  rintro _ _ _ ⟨rfl, rfl⟩
  refine .pure ⟨rfl, ?_⟩
  simp [Frame.fetched, bits_foldl_shiftIn hlength]

theorem receive_frames (config : Config.BitBang) (count : Nat) (follows : Bool) :
    Frames Held (fun _ bytes signs ↦ bytes.length = count ∧ signs = Frame.fetchedAll bytes follows)
      (receive config count follows) := by
  induction count with
  | zero => exact .pure ⟨rfl, rfl⟩
  | succ count ih =>
    refine .bind (readByte_frames config _) ?_
    rintro byte _ _ ⟨rfl, rfl⟩
    refine .bind (.take byte) ?_
    rintro _ _ _ ⟨rfl, rfl⟩
    refine ih.mono ?_
    rintro _ bytes _ ⟨rfl, rfl⟩
    refine ⟨by simp, ?_⟩
    have hmore : (!bytes.isEmpty || follows) = (bytes.length != 0 || follows) := by
      cases bytes <;> rfl
    simp [Frame.fetchedAll, hmore]

/-- How the lines are where a phase begins: released before the first one, held after another. -/
def Entry (previous : Option Direction) : Master → Observer → Prop :=
  if previous = none then Open else Held

/-- Where the direction changes, the slave is addressed before what follows. -/
theorem turn_frames (config : Config.BitBang) (address : Address) (previous : Option Direction)
    (direction : Direction) {rest : Exchange β} {final : β → List UInt8 → List Sign → Prop}
    (hrest : Frames Held (fun out late more ↦
      final out late (Frame.turn address previous direction ++ more)) rest) :
    Frames (Entry previous) final
      (if previous ≠ some direction then do
        select config address direction
        rest
      else rest) := by
  by_cases hsame : previous = some direction
  · rw [if_neg (not_not_intro hsame), Entry, if_neg (by simp [hsame])]
    simpa only [Frame.turn, if_pos hsame, List.nil_append] using hrest
  · have hselect : Frames (Entry previous)
        (fun _ bytes signs ↦ bytes = [] ∧ signs = Frame.turn address previous direction)
        (select config address direction) := by
      unfold Entry
      rw [Frame.turn, if_neg hsame]
      split
      · exact select_frames config address direction
      · exact (select_frames config address direction).narrow
    rw [if_pos hsame]
    refine .bind hselect ?_
    rintro _ _ _ ⟨rfl, rfl⟩
    exact hrest

/-- The induction is on the phases: each begins with an opening where the direction changes, and
leaves the clock low for the next one. -/
theorem runPhases_frames (config : Config.BitBang) (address : Address) (phases : List Phase)
    (previous : Option Direction) (hphases : phases = [] → previous ≠ none) :
    Frames (Entry previous)
      (fun _ bytes signs ↦
        signs = Frame.body address phases previous (Phase.buffers phases bytes))
      (runPhases config address phases previous) := by
  induction phases generalizing previous with
  | nil =>
    rw [Entry, if_neg (hphases rfl)]
    exact .pure rfl
  | cons phase rest ih =>
    cases phase with
    | write bytes =>
      refine turn_frames config address previous .write ?_
      refine .bind (sendAll_frames config address bytes) ?_
      rintro _ _ _ ⟨rfl, rfl⟩
      refine (ih (some .write) fun _ ↦ Option.some_ne_none _).mono ?_
      rintro _ late _ rfl
      simp [Frame.body, Phase.buffers]
    | read count =>
      refine turn_frames config address previous .read ?_
      refine .bind (receive_frames config count (readsNext rest)) ?_
      rintro _ early _ ⟨hlength, rfl⟩
      refine (ih (some .read) fun _ ↦ Option.some_ne_none _).mono ?_
      rintro _ late _ rfl
      simp [Phase.buffers_read hlength, Frame.body]

/-- The stop is a sign of its own, also where a slave never lets go of the clock. -/
theorem leads_stop (config : Config.BitBang) {master : Master} {observer : Observer}
    (hheld : Held master observer) :
    Leads (fun _ left later ↦ left.levels = .released ∧ left.received = master.received ∧
        Shown [.stop] observer later) (stop config) master observer := by
  obtain ⟨⟨clock, data⟩, received⟩ := master
  obtain ⟨_, whole, sampled, symbols⟩ := observer
  obtain ⟨rfl, rfl⟩ := hheld
  unfold stop
  simp only [leads_bind, leads_setData, leads_halfPeriod]
  refine (leads_clockHigh config _ _).mono ?_
  rintro _ _ _ ⟨rfl, sampled, rfl⟩
  exact ⟨rfl, rfl, [.stop], rfl, .cons trivial .nil⟩

theorem achieves_closed (config : Config.BitBang) {exchange : Exchange Unit} {master : Master}
    {observer : Observer} {post : Unit → Master → Observer → Prop}
    (hexchange : Achieves (fun value left later ↦
      Leads (fun _ left later ↦ post value left later) (stop config) left later)
      exchange master observer) :
    Achieves post (closed config exchange) master observer := by
  refine (leads_bind _ _ _).mpr (Leads.mono hexchange fun outcome left later hstop ↦ ?_)
  refine (leads_bind _ _ _).mpr ?_
  cases outcome with
  | ok value => exact Leads.mono hstop fun _ _ _ hpost ↦ (leads_pure _).mpr hpost
  | error cause =>
    have hanything : Leads (fun _ _ _ ↦ True) (stop config) left later :=
      ((stop config).run left).meets_anything.preserves (fun _ _ _ _ _ ↦ trivial) trivial
    exact hanything.mono fun _ _ _ _ ↦ (leads_pure _).mpr trivial

/-- What is achieved from released lines holds of the trace of every run that succeeds. -/
theorem Achieves.performed {exchange : Exchange Unit} {post : Unit → Master → Observer → Prop}
    (hachieves : Achieves post exchange {} {}) {σ : Type}
    (handler : Handler WireAccess.signature σ) (state : σ) {master : Master}
    (hok : ((perform exchange).run handler state).1 = (.ok (), master)) :
    post () master (((perform exchange).trace handler state).foldl Observer.see {}) := by
  have hwatched : Lands post ((perform exchange).run handler state).1.1
      ((perform exchange).run handler state).1.2
      (((perform exchange).trace handler state).foldl Observer.see {}) :=
    Program.Meets.watched hachieves handler state
  rw [hok] at hwatched
  exact hwatched

theorem Shown.stop {before after : Observer} (hshown : Shown [.stop] before after) :
    after.symbols = before.symbols ++ [.stop] := by
  obtain ⟨symbols, hsymbols, hsigns⟩ := hshown
  match symbols, hsigns with
  | [.stop], _ => exact hsymbols

/-- What an exchange adds from released lines on is what the run of it shows that succeeds, and
then a stop. -/
theorem Frames.performed (config : Config.BitBang) {exchange : Exchange Unit}
    {goal : Unit → List UInt8 → List Sign → Prop} (hexchange : Frames Open goal exchange) {σ : Type}
    (handler : Handler WireAccess.signature σ) (state : σ) {master : Master}
    (hok : ((perform (closed config exchange)).run handler state).1 = (.ok (), master)) :
    ∃ signs symbols, goal () master.received signs ∧ List.Forall₂ Sign.Shows signs symbols ∧
      observe ((perform (closed config exchange)).trace handler state) = symbols ++ [.stop] := by
  have hopen : Open {} {} := ⟨rfl, fun _ ↦ rfl⟩
  have hclosed : Achieves (fun _ left later ↦ ∃ signs symbols, goal () left.received signs ∧
      List.Forall₂ Sign.Shows signs symbols ∧ later.symbols = symbols ++ [.stop])
      (closed config exchange) {} {} := by
    refine achieves_closed config ((hexchange {} {} hopen).mono ?_)
    rintro _ left later ⟨bytes, signs, hgoal, hreceived, hheld, symbols, hsymbols, hshown⟩
    refine (leads_stop config hheld).mono ?_
    rintro _ final last ⟨-, hsame, hstop⟩
    refine ⟨signs, symbols, ?_, hshown, ?_⟩
    · rwa [hsame, hreceived]
    · rw [hstop.stop, hsymbols, List.nil_append]
  exact hclosed.performed handler state hok

/-- Nobody holds the clock, and someone always holds the data line. -/
def heldData : Handler WireAccess.signature Unit where
  answer
    | .sample, _ => (⟨true, false⟩, ())
    | .drive _, _ | .delay _, _ | .note _, _ => ((), ())

end Scanout.I2c.BitBang
