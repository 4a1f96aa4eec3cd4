import Scanout.Proofs.I2c.Framing
import Scanout.Proofs.I2c.Outcome
import Scanout.Proofs.Recall

/-!
The lines as the registers of their pads. Each exchange with the lines is a few accesses of the pads
(`Pads.Shows`), and a program over the lines shows those of its exchanges one after the other
(`Pads.plays_run`). The master pulls a line low by its enable bit alone: the enable bits are the
levels that were last driven (`Echoes.enable_bits`), and no write of the pads touches any bit but
those of the two lines (`Echoes.drives`).
-/

set_option autoImplicit false
set_option relaxedAutoImplicit false

namespace Scanout

open Register

namespace I2c

namespace Pads

/-- A register of the pads at a base, where it has an address. -/
def place (base : Direct) (offset : UInt32) : Direct :=
  ⟨base.offset + offset⟩

/-- The bits of the two lines. -/
def lineBits : UInt32 := padClock ||| padData

/-- The registers that the pads are driven with. -/
def drivers (base : Direct) : List Direct :=
  [place base padMask, place base padOutput, place base padEnable]

/-- The word may be written to a register of the pads that holds a value: it changes no bit but
those of the lines, and as an output value it has both of these clear. -/
structure Drives (base register : Direct) (held word : UInt32) : Prop where
  kept : word &&& ~~~lineBits = held &&& ~~~lineBits
  low : register = place base padOutput → word &&& lineBits = 0

/-- The accesses of the pads in which an exchange with the lines consists. -/
inductive Shows (base : Direct) : Scanout.Exchange WireAccess.signature → List Event → Prop
  | drive (levels : Levels) (old again : UInt32) :
      Shows base ⟨.drive levels, ()⟩
        (Event.update (place base padEnable) lineBits (pulled levels) old ++
          [Event.read (place base padEnable) again])
  | sample (value : UInt32) :
      Shows base ⟨.sample, ⟨value &&& padClock != 0, value &&& padData != 0⟩⟩
        [Event.read (place base padInput) value]
  | delay (microseconds : UInt32) :
      Shows base ⟨.delay microseconds, ()⟩ [⟨.delay microseconds, ()⟩]
  | note (entry : Log.Entry) : Shows base ⟨.note entry, ()⟩ [Event.note entry]

/-- The accesses of some exchanges one after the other. -/
inductive Echoes (base : Direct) :
    List (Scanout.Exchange WireAccess.signature) → List Event → Prop
  | nil : Echoes base [] []
  | cons {exchange : Scanout.Exchange WireAccess.signature}
      {rest : List (Scanout.Exchange WireAccess.signature)} {early late : List Event}
      (hshows : Shows base exchange early) (hrest : Echoes base rest late) :
      Echoes base (exchange :: rest) (early ++ late)

/-- The accesses in which pads are taken over: their output values are cleared, the lines are
claimed, and then released. -/
def takeover (base : Direct) (output mask enable again : UInt32) : List Event :=
  Event.update (place base padOutput) lineBits 0 output ++
    Event.update (place base padMask) 0 lineBits mask ++
      (Event.update (place base padEnable) lineBits 0 enable ++
        [Event.read (place base padEnable) again])

/-!
How the plays of realisations come apart.
-/

section Plays

variable {α β : Type} {base : Direct} {events : List Event}

/-- A play of two realisations is one of each, or ends in the fault of the first. -/
theorem plays_bind {realisation : Realisation α} {rest : α → Realisation β}
    {outcome : Except Fault β}
    (hplays : (ExceptT.run (realisation >>= rest)).Plays events outcome) :
    (∃ early late value, events = early ++ late ∧
        (ExceptT.run realisation).Plays early (.ok value) ∧
          (ExceptT.run (rest value)).Plays late outcome) ∨
      ∃ fault, (ExceptT.run realisation).Plays events (.error fault) ∧ outcome = .error fault := by
  rw [ExceptT.run_bind, Program.bind_eq, Program.plays_bind] at hplays
  obtain ⟨early, late, result, rfl, hfirst, hrest⟩ := hplays
  cases result with
  | ok value => exact .inl ⟨early, late, value, rfl, hfirst, hrest⟩
  | error fault =>
    obtain ⟨rfl, rfl⟩ := (Program.plays_done _ _ _).mp hrest
    exact .inr ⟨fault, by rwa [List.append_nil], rfl⟩

theorem plays_lift {program : Hardware α} {outcome : Except Fault α}
    (hplays : (ExceptT.run (liftM program : Realisation α)).Plays events outcome) :
    ∃ value, program.Plays events value ∧ outcome = .ok value := by
  have hplays : (program.bind fun value ↦ .done (.ok value)).Plays events outcome := hplays
  rw [Program.plays_bind] at hplays
  obtain ⟨early, late, value, rfl, hprogram, hrest⟩ := hplays
  obtain ⟨rfl, rfl⟩ := (Program.plays_done _ _ _).mp hrest
  exact ⟨value, by rwa [List.append_nil], rfl⟩

/-- A program over the registers goes on with its value. -/
theorem plays_lift_bind {program : Hardware α} {rest : α → Realisation β}
    {outcome : Except Fault β}
    (hplays : (ExceptT.run ((liftM program : Realisation α) >>= rest)).Plays events outcome) :
    ∃ early late value, events = early ++ late ∧ program.Plays early value ∧
      (ExceptT.run (rest value)).Plays late outcome := by
  obtain ⟨early, late, value, rfl, hfirst, hrest⟩ | ⟨fault, hfirst, -⟩ := plays_bind hplays
  · obtain ⟨_, hprogram, heq⟩ := plays_lift hfirst
    obtain rfl := Except.ok.inj heq
    exact ⟨early, late, value, rfl, hprogram, hrest⟩
  · obtain ⟨_, -, heq⟩ := plays_lift hfirst
    cases heq

/-- Pads that have addresses have registers. -/
theorem stride_place (hfits : Fits base) {offset : UInt32} (hoffset : offset ≤ padInput) :
    base.stride offset = .ok (place base offset) := by
  have hsum : base.offset.toNat + offset.toNat < UInt32.size :=
    Nat.lt_of_le_of_lt (Nat.add_le_add_left (UInt32.le_iff_toNat_le.mp hoffset) _) hfits
  rw [Direct.stride, Checked.add32, if_pos hsum]
  rfl

theorem register_bind (hfits : Fits base) {offset : UInt32} (hoffset : offset ≤ padInput)
    (rest : Direct → Realisation β) : register base offset >>= rest = rest (place base offset) := by
  rw [register, stride_place hfits hoffset]
  rfl

/-- An exchange with the lines shows on the pads. -/
theorem plays_realise (hfits : Fits base) {request : WireAccess}
    {outcome : Except Fault request.Answer}
    (hplays : (ExceptT.run (realise base request)).Plays events outcome) :
    ∃ answer, outcome = .ok answer ∧ Shows base ⟨request, answer⟩ events := by
  cases request with
  | drive levels =>
    simp only [realise, drive, register_bind hfits (show padEnable ≤ padInput by decide)] at hplays
    obtain ⟨_, _, _, rfl, hupdate, hrest⟩ := plays_lift_bind hplays
    obtain ⟨_, _, again, rfl, hread, hend⟩ := plays_lift_bind hrest
    obtain ⟨old, rfl⟩ := (Hardware.plays_update ..).mp hupdate
    obtain rfl := (Hardware.plays_read ..).mp hread
    obtain ⟨rfl, rfl⟩ := (Program.plays_done _ _ _).mp hend
    exact ⟨(), rfl, .drive levels old again⟩
  | sample =>
    simp only [realise, sample, register_bind hfits (show padInput ≤ padInput by decide)] at hplays
    obtain ⟨_, _, value, rfl, hread, hend⟩ := plays_lift_bind hplays
    obtain rfl := (Hardware.plays_read ..).mp hread
    obtain ⟨rfl, rfl⟩ := (Program.plays_done _ _ _).mp hend
    exact ⟨_, rfl, .sample value⟩
  | delay microseconds =>
    obtain ⟨_, hdelay, rfl⟩ := plays_lift hplays
    obtain rfl := (Hardware.plays_delay ..).mp hdelay
    exact ⟨(), rfl, .delay microseconds⟩
  | note entry =>
    obtain ⟨_, hnote, rfl⟩ := plays_lift hplays
    obtain rfl := (Hardware.plays_note ..).mp hnote
    exact ⟨(), rfl, .note entry⟩

/-- A program over the lines shows its exchanges one after the other. -/
theorem plays_run (hfits : Fits base) {program : Wires α} {outcome : Except Fault α}
    (hplays : (ExceptT.run (run base program)).Plays events outcome) :
    ∃ exchanges value, outcome = .ok value ∧ program.Plays exchanges value ∧
      Echoes base exchanges events := by
  induction program generalizing events with
  | done value =>
    obtain ⟨rfl, rfl⟩ := (Program.plays_done _ _ _).mp hplays
    exact ⟨[], value, rfl, (Program.plays_done _ _ _).mpr ⟨rfl, rfl⟩, .nil⟩
  | ask request next ih =>
    obtain ⟨early, late, answer, rfl, hfirst, hrest⟩ | ⟨fault, hfirst, -⟩ := plays_bind hplays
    · obtain ⟨_, heq, hshows⟩ := plays_realise hfits hfirst
      obtain rfl := Except.ok.inj heq
      obtain ⟨exchanges, value, rfl, hnext, hechoes⟩ := ih answer hrest
      exact ⟨⟨request, answer⟩ :: exchanges, value, rfl,
        (Program.plays_ask _ _ _ _).mpr ⟨answer, exchanges, rfl, hnext⟩, .cons hshows hechoes⟩
    · obtain ⟨_, heq, -⟩ := plays_realise hfits hfirst
      cases heq

theorem plays_attach (hfits : Fits base) {outcome : Except Fault Unit}
    (hplays : (ExceptT.run (BitBang.attach base)).Plays events outcome) :
    ∃ output mask enable again, outcome = .ok () ∧
      events = takeover base output mask enable again := by
  simp only [BitBang.attach, claim, bind_assoc,
    register_bind hfits (show padOutput ≤ padInput by decide),
    register_bind hfits (show padMask ≤ padInput by decide)] at hplays
  obtain ⟨_, _, _, rfl, hoff, hrest⟩ := plays_lift_bind hplays
  obtain ⟨_, _, _, rfl, hclaim, hrun⟩ := plays_lift_bind hrest
  obtain ⟨output, rfl⟩ := (Hardware.plays_update ..).mp hoff
  obtain ⟨mask, rfl⟩ := (Hardware.plays_update ..).mp hclaim
  obtain ⟨exchanges, _, rfl, hrelease, hechoes⟩ := plays_run hfits hrun
  obtain rfl := (Program.plays_perform _ _ _).mp hrelease
  cases hechoes with
  | cons hshows hnil =>
    cases hnil
    cases hshows with
    | drive _ enable again =>
      refine ⟨output, mask, enable, again, rfl, ?_⟩
      rw [List.append_nil, ← List.append_assoc]
      rfl

end Plays

/-!
What the accesses write.
-/

theorem place_inj {base : Direct} {first second : UInt32} :
    place base first = place base second ↔ first = second := by
  rw [place, place, Direct.mk.injEq, UInt32.add_right_inj]

/-- An update of the lines' bits is what the pads may be driven with, unless it puts out a level. -/
theorem drives_update {base register : Direct} {clear set : UInt32}
    (hclear : clear &&& ~~~lineBits = 0) (hset : set &&& ~~~lineBits = 0) {held : UInt32}
    (hlow : register = place base padOutput → ((held &&& ~~~clear) ||| set) &&& lineBits = 0) :
    Drives base register held ((held &&& ~~~clear) ||| set) where
  kept := updated_and_of_disjoint hclear hset held
  low := hlow

theorem pulled_kept (levels : Levels) : pulled levels &&& ~~~lineBits = 0 := by
  obtain ⟨clock, data⟩ := levels
  cases clock <;> cases data <;> decide

/-- Driving the lines makes their enable bits those that are pulled. -/
theorem enabled_lines (levels : Levels) (held : UInt32) :
    ((held &&& ~~~lineBits) ||| pulled levels) &&& lineBits = pulled levels := by
  have hpulled : pulled levels &&& lineBits = pulled levels := by
    obtain ⟨clock, data⟩ := levels
    cases clock <;> cases data <;> decide
  rw [or_and_distrib, cleared_and_self, UInt32.zero_or, hpulled]

variable {base : Direct} {events : List Event}

theorem Shows.staysIn {exchange : Scanout.Exchange WireAccess.signature}
    (hshows : Shows base exchange events) : StaysIn (drivers base) events := by
  cases hshows with
  | drive levels old again =>
    exact .append (.update (by simp [drivers])) (.read _ again)
  | sample value => exact .read _ value
  | delay microseconds => exact .of_silent (List.forall_mem_singleton.mpr rfl)
  | note entry => exact .of_silent (by simp)

theorem Echoes.staysIn {exchanges : List (Scanout.Exchange WireAccess.signature)}
    (hechoes : Echoes base exchanges events) : StaysIn (drivers base) events := by
  induction hechoes with
  | nil => exact .of_silent (by simp)
  | cons hshows _ ih => exact hshows.staysIn.append ih

theorem takeover_staysIn (base : Direct) (output mask enable again : UInt32) :
    StaysIn (drivers base) (takeover base output mask enable again) :=
  .append (.append (.update (by simp [drivers])) (.update (by simp [drivers])))
    (.append (.update (by simp [drivers])) (.read _ again))

theorem Shows.drives {exchange : Scanout.Exchange WireAccess.signature}
    (hshows : Shows base exchange events) {held : Direct → UInt32}
    (hknown : Remembers (place base padEnable) (held (place base padEnable)) events) :
    WritesOver (Drives base) held events := by
  cases hshows with
  | drive levels old again =>
    rw [remembers_append] at hknown
    refine .append (.update hknown.1 (drives_update (by decide) (pulled_kept levels)
      fun heq ↦ ?_)) (.of_silent (by simp) _)
    exact absurd (place_inj.mp heq) (by decide)
  | sample value => exact .of_silent (by simp) held
  | delay microseconds => exact .of_silent (List.forall_mem_singleton.mpr rfl) held
  | note entry => exact .of_silent (by simp) held

/-- The induction is on the exchanges: each drives the lines by the enable bits, or not at all. -/
theorem Echoes.drives {exchanges : List (Scanout.Exchange WireAccess.signature)}
    (hechoes : Echoes base exchanges events) {held : Direct → UInt32}
    (hknown : Remembers (place base padEnable) (held (place base padEnable)) events) :
    WritesOver (Drives base) held events := by
  induction hechoes generalizing held with
  | nil => trivial
  | cons hshows _ ih =>
    rw [remembers_append] at hknown
    exact (hshows.drives hknown.1).append (ih hknown.2)

/-- The enable bits of the lines are those that an observer of the lines sees pulled. -/
theorem Shows.enable_bits {exchange : Scanout.Exchange WireAccess.signature}
    (hshows : Shows base exchange events) {value : UInt32}
    (hknown : Remembers (place base padEnable) value events) {observer : Observer}
    (hbits : value &&& lineBits = pulled observer.levels) :
    recalled (place base padEnable) value events &&& lineBits =
      pulled (observer.see exchange).levels := by
  cases hshows with
  | drive levels old again =>
    obtain rfl : old = value := by
      rw [remembers_append] at hknown
      exact (remembers_read_cons ..).mp hknown.1 |>.1 rfl
    have hdriven : (observer.see ⟨.drive levels, ()⟩).levels = levels :=
      observer.levels_drive levels
    have hwritten : recalled (place base padEnable) old
        (Event.update (place base padEnable) lineBits (pulled levels) old ++
          [Event.read (place base padEnable) again]) = (old &&& ~~~lineBits) ||| pulled levels := by
      simp [Event.update]
    rw [hdriven, hwritten, enabled_lines]
  | sample seen =>
    rw [recalled_read_cons]
    exact hbits
  | delay microseconds => exact hbits
  | note entry => exact hbits

theorem Echoes.enable_bits {exchanges : List (Scanout.Exchange WireAccess.signature)}
    (hechoes : Echoes base exchanges events) {value : UInt32}
    (hknown : Remembers (place base padEnable) value events) {observer : Observer}
    (hbits : value &&& lineBits = pulled observer.levels) :
    recalled (place base padEnable) value events &&& lineBits =
      pulled (exchanges.foldl Observer.see observer).levels := by
  induction hechoes generalizing value observer with
  | nil => exact hbits
  | cons hshows _ ih =>
    rw [remembers_append] at hknown
    rw [recalled_append, List.foldl_cons]
    exact ih hknown.2 (hshows.enable_bits hknown.1 hbits)

/-- Taking the pads over drives them as they may be driven. -/
theorem takeover_drives {output mask enable again : UInt32} {held : Direct → UInt32}
    (hknown : ∀ register ∈ drivers base,
      Remembers register (held register) (takeover base output mask enable again)) :
    WritesOver (Drives base) held (takeover base output mask enable again) := by
  have hdistinct : place base padMask ≠ place base padOutput ∧
      place base padEnable ≠ place base padOutput := by
    simp only [ne_eq, place_inj]
    decide
  obtain ⟨hmask, houtput, henable⟩ : Remembers (place base padMask) _ _ ∧
      Remembers (place base padOutput) _ _ ∧ Remembers (place base padEnable) _ _ := by
    simpa [drivers] using hknown
  simp only [takeover, remembers_append] at hmask houtput henable
  refine .append (.append (.update houtput.1.1 (drives_update (by decide) (by decide) fun _ ↦ ?_))
    (.update hmask.1.2 (drives_update (by decide) (by decide) fun heq ↦ absurd heq hdistinct.1)))
      (.append (.update henable.2.1 (drives_update (by decide) (by decide) fun heq ↦
        absurd heq hdistinct.2)) (.of_silent (by simp) _))
  rw [UInt32.or_zero]
  exact cleared_and_self _ _

/-- Pads that were just taken over pull no line. -/
theorem takeover_enable_bits (output mask enable again value : UInt32) :
    recalled (place base padEnable) value (takeover base output mask enable again) &&& lineBits =
      0 := by
  rw [takeover, recalled_append]
  simp only [Event.update, List.cons_append, List.nil_append, recalled_read_cons,
    recalled_write_cons, recalled_nil, if_pos, UInt32.or_zero]
  exact cleared_and_self _ _

end Pads

/-!
However a transfer ends, it lets go of both lines.
-/

/-- Whatever is answered, the lines are released in the end. -/
def Wires.Releases {α : Type} (program : Wires α) : Prop :=
  ∀ observer : Observer,
    program.Meets (.watching Observer.see) (fun _ later ↦ later.levels = .released) observer

/-- What follows without driving the lines leaves them released. -/
theorem Wires.Releases.bind {α β : Type} {program : Wires α} {rest : α → Wires β}
    (hprogram : program.Releases)
    (hrest : ∀ value observer, observer.levels = .released →
      (rest value).Meets (.watching Observer.see) (fun _ later ↦ later.levels = .released)
        observer) :
    Wires.Releases (program.bind rest) :=
  fun observer ↦ Program.Meets.bind (hprogram observer) hrest

namespace BitBang

/-- A stop releases the lines from wherever they are, also where the clock is stuck. -/
theorem leads_stop_released (config : Config.BitBang) (master : Master) (observer : Observer) :
    Leads (fun _ _ later ↦ later.levels = .released) (stop config) master observer := by
  unfold stop
  simp only [leads_bind, leads_setData, leads_halfPeriod]
  refine (leads_clockHigh config _ _).mono ?_
  rintro _ _ _ ⟨rfl, sampled, rfl⟩
  rw [Observer.levels_drive]
  rfl

theorem closed_releases (config : Config.BitBang) (exchange : Exchange Unit) :
    Wires.Releases (perform (closed config exchange)) := by
  intro observer
  have hanything : Leads (fun _ _ _ ↦ True) exchange.run {} observer :=
    (exchange.run.run {}).meets_anything.preserves (fun _ _ _ _ _ ↦ trivial) trivial
  refine (leads_bind exchange.run _ (fun _ _ later ↦ later.levels = .released)).mpr ?_
  refine hanything.mono fun outcome left later _ ↦ (leads_bind _ _ _).mpr ?_
  exact (leads_stop_released config left later).mono fun _ _ _ hreleased ↦
    (leads_pure _).mpr hreleased

end BitBang

/-- A program that releases the lines, on pads that are taken over for it. -/
theorem Pads.plays_session {α : Type} {base : Direct} (hfits : Pads.Fits base) {program : Wires α}
    (hreleases : program.Releases) {events : List Event} {outcome : Except Fault α}
    (hplays : (ExceptT.run (BitBang.attach base >>= fun _ ↦ Pads.run base program)).Plays
      events outcome) :
    ∃ output mask enable again exchanges early,
      events = takeover base output mask enable again ++ early ∧ Echoes base exchanges early ∧
        (exchanges.foldl Observer.see {}).levels = .released := by
  obtain ⟨_, early, _, rfl, hattach, hrun⟩ | ⟨fault, hattach, -⟩ := plays_bind hplays
  · obtain ⟨output, mask, enable, again, -, rfl⟩ := plays_attach hfits hattach
    obtain ⟨exchanges, value, -, hprogram, hechoes⟩ := plays_run hfits hrun
    exact ⟨output, mask, enable, again, exchanges, early, rfl, hechoes,
      (hreleases {}).plays_watched hprogram⟩
  · obtain ⟨_, _, _, _, heq, -⟩ := plays_attach hfits hattach
    cases heq

/-- Such a session drives the pads as they may be driven, and ends with no line pulled. -/
theorem Pads.session_drives {base : Direct} {output mask enable again : UInt32}
    {exchanges : List (Scanout.Exchange WireAccess.signature)} {early : List Event}
    (hechoes : Echoes base exchanges early)
    (hreleased : (exchanges.foldl Observer.see {}).levels = .released) {held : Direct → UInt32}
    (hknown : ∀ register ∈ drivers base,
      Remembers register (held register) (takeover base output mask enable again ++ early)) :
    WritesOver (Drives base) held (takeover base output mask enable again ++ early) ∧
      recalled (place base padEnable) (held (place base padEnable))
        (takeover base output mask enable again ++ early) &&& lineBits = 0 := by
  have hfirst (register : Direct) (hregister : register ∈ drivers base) :=
    (remembers_append ..).mp (hknown register hregister)
  have henable := (hfirst (place base padEnable) (by simp [drivers])).2
  refine ⟨.append (takeover_drives fun register hregister ↦ (hfirst register hregister).1)
    (hechoes.drives henable), ?_⟩
  have hstart : recalled (place base padEnable) (held (place base padEnable))
      (takeover base output mask enable again) &&& lineBits = pulled ({} : Observer).levels :=
    takeover_enable_bits output mask enable again _
  rw [recalled_append, hechoes.enable_bits henable hstart, hreleased]
  rfl

end I2c

namespace Edid

open I2c

variable (config : Config.BitBang)

theorem exchange_releases (address : UInt8) (phases : List Phase) :
    Wires.Releases ((Bus.ofBitBang config).exchange address phases) :=
  (BitBang.closed_releases config _).bind fun _ _ hreleased ↦ .done hreleased

theorem readSegment_releases (segment offset : UInt8) (count : Nat) :
    Wires.Releases ((Bus.ofBitBang config).readSegment segment offset count) :=
  (BitBang.closed_releases config _).bind fun _ _ hreleased ↦ .done hreleased

/-- Looking for a monitor line by line leaves the lines released. -/
theorem probe_releases : Wires.Releases (probe (Bus.ofBitBang config)) := by
  refine (exchange_releases config _ _).bind fun outcome observer hreleased ↦ ?_
  cases outcome with
  | ok _ => exact .done hreleased
  | error _ => exact .done hreleased

theorem readFirst_releases (offset : UInt8) (count : Nat) :
    Wires.Releases (readFirst (Bus.ofBitBang config) offset count) := by
  refine (exchange_releases config _ _).bind fun outcome observer hreleased ↦ ?_
  cases outcome with
  | ok _ => exact .done hreleased
  | error _ => exact .done hreleased

/-- Reading a block line by line leaves the lines released. -/
theorem readBlock_releases (block : UInt8) :
    Wires.Releases (readBlock (Bus.ofBitBang config) block) := by
  unfold readBlock
  split
  · refine (readFirst_releases config _ _).bind fun outcome observer hreleased ↦ ?_
    cases outcome with
    | ok _ => exact (Program.meets_ask _ _ _).mpr fun _ ↦ .done hreleased
    | error _ => exact .done hreleased
  · refine (readSegment_releases config _ _ _).bind fun outcome observer hreleased ↦ ?_
    cases outcome with
    | ok _ => exact (Program.meets_ask _ _ _).mpr fun _ ↦ .done hreleased
    | error _ => exact .done hreleased

end Edid

end Scanout
