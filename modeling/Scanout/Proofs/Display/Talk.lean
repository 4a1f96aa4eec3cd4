import Scanout.Proofs.Display.Rejection
import Scanout.Proofs.I2c.Course
import Scanout.Proofs.I2c.Pads

/-!
A call that talks to a monitor, seen from the registers. Whichever transport an output has, the call
is one transfer on it and otherwise only leaves notes, and nothing that is cached changes. Over the
hardware engine the transfer is one of the engine's (`plays_hardware`); over pads it is what the
pads make of the line-by-line master (`plays_pads`).
-/

set_option autoImplicit false
set_option relaxedAutoImplicit false

namespace Scanout

/-- The access leaves a note. -/
def Access.IsNote (access : Access) : Prop :=
  ∃ entry, access = .note entry

theorem Access.untouched_of_notes {events : List Event}
    (hnotes : ∀ event ∈ events, event.request.IsNote) : Untouched events := by
  rintro ⟨request, answer⟩ hevent
  obtain ⟨entry, rfl⟩ := hnotes _ hevent
  exact ⟨entry, rfl⟩

namespace Edid

open I2c

/-- The transfer that looks for a monitor. -/
def probeTransfer : Transfer :=
  .transact (.seven memoryAddress) [.write []]

/-- The transfer that reads a block. -/
def blockTransfer (block : UInt8) : Transfer :=
  if block < 2 then
    .transact (.seven memoryAddress) [.write [(block % 2) * 128], .read blockLength]
  else .readSegment (block / 2) ((block % 2) * 128) blockLength

variable {controller : Controller} {events : List Event}

/-- Looking for a monitor over the hardware engine is one transfer. -/
theorem plays_probe {found : Bool}
    (hplays : (probe (Bus.ofController controller)).Plays events found) :
    ∃ out, ((probeTransfer.exchange controller).run.run {}).Plays events out := by
  simp only [probe, Bus.ofController, Program.bind_eq, Program.pure_eq, Program.bind_bind,
    Program.done_bind, Program.plays_bind] at hplays
  obtain ⟨early, late, out, rfl, htransfer, hrest⟩ := hplays
  obtain rfl : late = [] := by
    obtain ⟨result, left⟩ := out
    cases result <;> exact ((Program.plays_done _ _ _).mp hrest).1
  exact ⟨out, by rwa [List.append_nil]⟩

/-- Reading a block over the hardware engine is one transfer, and at most a note. -/
theorem plays_readBlock {block : UInt8} {outcome : Except I2c.Error (List UInt8)}
    (hplays : (readBlock (Bus.ofController controller) block).Plays events outcome) :
    ∃ early notes out, events = early ++ notes ∧ Untouched notes ∧
      (((blockTransfer block).exchange controller).run.run {}).Plays early out := by
  have hnote {rest : Hardware (Except I2c.Error (List UInt8))} {late : List Event}
      (hlate : rest.Plays late outcome)
      (hrest : rest.Meets (.asking Access.IsNote) (fun _ _ ↦ True) ()) : Untouched late :=
    Access.untouched_of_notes (hrest.plays hlate).1
  unfold readBlock at hplays
  rw [blockTransfer]
  split at hplays
  · rename_i hfirst
    rw [if_pos hfirst]
    simp only [readFirst, Bus.ofController, Program.bind_eq, Program.pure_eq, Program.bind_bind,
      Program.done_bind, Program.plays_bind] at hplays
    obtain ⟨early, _, out, rfl, htransfer, middle, notes, fetched, rfl, hanswer, hrest⟩ := hplays
    obtain rfl : middle = [] := by
      split at hanswer <;> exact ((Program.plays_done _ _ _).mp hanswer).1
    refine ⟨early, notes, out, rfl, hnote hrest ?_, htransfer⟩
    cases fetched with
    | ok data => exact .ask ⟨_, rfl⟩ fun _ ↦ .done trivial
    | error cause => exact .done trivial
  · rename_i hlater
    rw [if_neg hlater]
    simp only [Bus.ofController, Program.bind_eq, Program.pure_eq, Program.bind_bind,
      Program.done_bind, Program.plays_bind] at hplays
    obtain ⟨early, notes, out, rfl, htransfer, hrest⟩ := hplays
    refine ⟨early, notes, out, rfl, hnote hrest ?_, htransfer⟩
    cases out.1 with
    | ok data => exact .ask ⟨_, rfl⟩ fun _ ↦ .done trivial
    | error cause => exact .done trivial

end Edid

/-- What is only noted writes nothing. -/
theorem Untouched.silent {events : List Event} (hnotes : Untouched events) :
    ∀ event ∈ events, event.written = none := by
  intro event hevent
  obtain ⟨entry, rfl⟩ := hnotes event hevent
  rfl

namespace Display

variable {display : Display} {id : Output.Id} {α : Type}

/-- Over the hardware engine, a monitor is talked to by a controller that is bound for it. -/
theorem start_withDdc_hardware {connector : UInt8} {controller : I2c.Controller}
    (hchannel : display.ddc id = .ok (.hardware connector))
    (hbind : I2c.Controller.bind? display.device.config.controller connector = .ok controller)
    (talk : {m : Type → Type} → [Monad m] → Edid.Bus m → m α) :
    (withDdc id talk).start display =
      (talk (Edid.Bus.ofController controller) : Hardware α).bind
        fun value ↦ .done (.ok value, display) := by
  rw [withDdc, Action.start_get_bind, hchannel, Action.start_accepted_bind]
  dsimp only
  rw [hbind]
  exact Action.start_lift _ _

/-- Over pads, a monitor is talked to by the line-by-line master, once the pads are taken over. -/
theorem start_withDdc_pads {base : Register.Direct}
    (hchannel : display.ddc id = .ok (.pads base))
    (talk : {m : Type → Type} → [Monad m] → Edid.Bus m → m α) :
    (withDdc id talk).start display =
      (ExceptT.run (I2c.BitBang.attach base >>= fun _ ↦ I2c.Pads.run base
        (talk (Edid.Bus.ofBitBang display.device.config.bitBang)))).bind
          fun outcome ↦ .done (Failure.ofFault outcome, display) := by
  rw [withDdc, Action.start_get_bind, hchannel, Action.start_accepted_bind]
  dsimp only
  rw [Action.start_lift_bind]
  rfl

/-- An output without a channel cannot be talked to. -/
theorem start_withDdc_refused {cause : Error} (hchannel : display.ddc id = .error cause)
    (talk : {m : Type → Type} → [Monad m] → Edid.Bus m → m α) :
    (withDdc id talk).start display = .done (.error (.error cause), display) := by
  rw [withDdc, Action.start_get_bind, hchannel]
  rfl

/-- Over the hardware engine a talk shows what it shows over the engine. -/
theorem plays_withDdc_hardware {connector : UInt8} {controller : I2c.Controller}
    (hchannel : display.ddc id = .ok (.hardware connector))
    (hbind : I2c.Controller.bind? display.device.config.controller connector = .ok controller)
    {talk : {m : Type → Type} → [Monad m] → Edid.Bus m → m α} {events : List Event}
    {out : Except (Failure Error) α × Display}
    (hplays : ((withDdc id talk).start display).Plays events out) :
    out.2 = display ∧
      ∃ value, (talk (Edid.Bus.ofController controller) : Hardware α).Plays events value := by
  rw [start_withDdc_hardware hchannel hbind, Program.plays_bind] at hplays
  obtain ⟨early, late, value, rfl, htalk, hrest⟩ := hplays
  obtain ⟨rfl, rfl⟩ := (Program.plays_done _ _ _).mp hrest
  exact ⟨rfl, value, by rwa [List.append_nil]⟩

/-- Over pads a talk that releases the lines takes the pads over and shows what it makes of them. -/
theorem plays_withDdc_pads {base : Register.Direct} (hchannel : display.ddc id = .ok (.pads base))
    (hfits : I2c.Pads.Fits base) {talk : {m : Type → Type} → [Monad m] → Edid.Bus m → m α}
    (hreleases : I2c.Wires.Releases
      (talk (Edid.Bus.ofBitBang display.device.config.bitBang)))
    {events : List Event} {out : Except (Failure Error) α × Display}
    (hplays : ((withDdc id talk).start display).Plays events out) :
    out.2 = display ∧ ∃ output mask enable again exchanges early,
      events = I2c.Pads.takeover base output mask enable again ++ early ∧
        I2c.Pads.Echoes base exchanges early ∧
          (exchanges.foldl I2c.Observer.see {}).levels = .released := by
  rw [start_withDdc_pads hchannel, Program.plays_bind] at hplays
  obtain ⟨early, late, outcome, rfl, htalk, hrest⟩ := hplays
  obtain ⟨rfl, rfl⟩ := (Program.plays_done _ _ _).mp hrest
  rw [List.append_nil]
  exact ⟨rfl, I2c.Pads.plays_session hfits hreleases htalk⟩

/-- An action whose value is dropped shows the same. -/
theorem plays_dropped {action : Action Display α} {events : List Event}
    {out : Except (Failure Error) Unit × Display}
    (hplays : ((do let _ ← action : Action Display Unit).start display).Plays events out) :
    ∃ result, (action.start display).Plays events (result, out.2) := by
  rw [Action.start_bind, Program.plays_bind] at hplays
  obtain ⟨early, late, ⟨result, left⟩, rfl, haction, hrest⟩ := hplays
  cases result with
  | ok value =>
    obtain ⟨rfl, rfl⟩ := (Program.plays_done _ _ _).mp hrest
    exact ⟨.ok value, by rwa [List.append_nil]⟩
  | error failure =>
    obtain ⟨rfl, rfl⟩ := (Program.plays_done _ _ _).mp hrest
    exact ⟨.error failure, by rwa [List.append_nil]⟩

/-- After the talk a block is at most noted about. -/
theorem plays_readEdid {block : UInt8} {events : List Event}
    {out : Except (Failure Error) (List UInt8) × Display}
    (hplays : ((readEdid id block).start display).Plays events out) :
    ∃ early notes result, events = early ++ notes ∧ Untouched notes ∧
      ((withDdc id fun bus ↦ Edid.readBlock bus block).start display).Plays early
        (result, out.2) := by
  rw [readEdid, Action.start_bind, Program.plays_bind] at hplays
  obtain ⟨early, notes, ⟨result, left⟩, rfl, hearly, hlate⟩ := hplays
  have hrest (rest : Except I2c.Error (List UInt8) → Action Display (List UInt8))
      (hkeeps : ∀ outcome, (rest outcome).Keeps (.asking Access.IsNote) fun state _ ↦ state = left)
      (hlate : (Action.follow rest (result, left)).Plays notes out) :
      Untouched notes ∧ out.2 = left := by
    cases result with
    | error failure =>
      obtain ⟨rfl, rfl⟩ := (Program.plays_done _ _ _).mp hlate
      exact ⟨fun _ hmem ↦ absurd hmem List.not_mem_nil, rfl⟩
    | ok outcome =>
      obtain ⟨hnotes, hleft⟩ := (hkeeps outcome left () rfl).plays hlate
      exact ⟨Access.untouched_of_notes hnotes, hleft⟩
  have hnote (level : Log.Level) (text : String) :
      (liftM (Hardware.note level text) : Action Display Unit).Keeps (.asking Access.IsNote)
        fun state _ ↦ state = left :=
    .lift fun _ _ hstate ↦ .ask ⟨_, rfl⟩ fun _ ↦ .done hstate
  obtain ⟨hnotes, hleft⟩ : Untouched notes ∧ out.2 = left := by
    refine hrest _ (fun outcome ↦ ?_) hlate
    cases outcome with
    | error cause => exact .refuse _
    | ok data =>
      have hsum : (do
          if !Edid.checksumOk data then
            Hardware.note .warn (s!"{id.name}: EDID block {block} fails its checksum")
          return data : Action Display (List UInt8)).Keeps (.asking Access.IsNote)
            fun state _ ↦ state = left := by
        dsimp only
        split
        · exact .bind (hnote _ _) fun _ ↦ .pure data
        · exact .pure data
      dsimp only
      split
      · exact .bind (hnote _ _) fun _ ↦ hsum
      · exact hsum
  rw [hleft]
  exact ⟨early, notes, result, rfl, hnotes, hearly⟩

/-- The output whose monitor a call talks to. -/
def Call.monitor? : Call → Option Output.Id
  | probeDdc id | readEdid id _ => some id
  | _ => none

/-- The transfer that the hardware engine makes for a call. -/
def Call.transfer? : Call → Option I2c.Transfer
  | probeDdc _ => some Edid.probeTransfer
  | readEdid _ block => some (Edid.blockTransfer block)
  | _ => none

/-- A call over the hardware engine is one transfer and some notes. -/
theorem plays_hardware (hvalid : display.device.config.controller.validate = .ok ()) {call : Call}
    (hmonitor : call.monitor? = some id) {connector : UInt8}
    (hchannel : display.ddc id = .ok (.hardware connector)) {events : List Event}
    {out : Except (Failure Error) Unit × Display}
    (hplays : (call.action.start display).Plays events out) :
    out.2 = display ∧ ∃ transfer early notes left, call.transfer? = some transfer ∧
      events = early ++ notes ∧ Untouched notes ∧
        ((transfer.exchange ⟨display.device.config.controller, connector⟩).run.run {}).Plays
          early left := by
  have hbind : I2c.Controller.bind? display.device.config.controller connector =
      .ok ⟨display.device.config.controller, connector⟩ := by
    rw [I2c.Controller.bind?, hvalid]
    rfl
  cases call with
  | probeDdc other =>
    obtain rfl : other = id := Option.some.inj hmonitor
    obtain ⟨result, htalk⟩ := plays_dropped hplays
    obtain ⟨hleft, found, hprobe⟩ := plays_withDdc_hardware hchannel hbind htalk
    obtain ⟨left, htransfer⟩ := Edid.plays_probe hprobe
    exact ⟨hleft, _, events, [], left, rfl, by simp,
      fun _ hmem ↦ absurd hmem List.not_mem_nil, htransfer⟩
  | readEdid other block =>
    obtain rfl : other = id := Option.some.inj hmonitor
    obtain ⟨result, htalk⟩ := plays_dropped hplays
    obtain ⟨early, notes, fetched, rfl, hnotes, hearly⟩ := plays_readEdid htalk
    obtain ⟨hleft, outcome, hread⟩ := plays_withDdc_hardware hchannel hbind hearly
    obtain ⟨transfer, more, left, rfl, hmore, htransfer⟩ := Edid.plays_readBlock hread
    exact ⟨hleft, _, transfer, more ++ notes, left, rfl, by simp,
      List.forall_mem_append.mpr ⟨hmore, hnotes⟩, htransfer⟩
  | _ => cases hmonitor

/-- A call over pads takes them over, plays them, and leaves some notes. -/
theorem plays_pads {call : Call} (hmonitor : call.monitor? = some id) {base : Register.Direct}
    (hchannel : display.ddc id = .ok (.pads base)) (hfits : I2c.Pads.Fits base)
    {events : List Event} {out : Except (Failure Error) Unit × Display}
    (hplays : (call.action.start display).Plays events out) :
    out.2 = display ∧ ∃ output mask enable again exchanges early notes,
      events = I2c.Pads.takeover base output mask enable again ++ early ++ notes ∧
        Untouched notes ∧ I2c.Pads.Echoes base exchanges early ∧
          (exchanges.foldl I2c.Observer.see {}).levels = .released := by
  cases call with
  | probeDdc other =>
    obtain rfl : other = id := Option.some.inj hmonitor
    obtain ⟨result, htalk⟩ := plays_dropped hplays
    obtain ⟨hleft, output, mask, enable, again, exchanges, early, rfl, hechoes⟩ :=
      plays_withDdc_pads hchannel hfits (Edid.probe_releases _) htalk
    exact ⟨hleft, output, mask, enable, again, exchanges, early, [], by simp,
      fun _ hmem ↦ absurd hmem List.not_mem_nil, hechoes⟩
  | readEdid other block =>
    obtain rfl : other = id := Option.some.inj hmonitor
    obtain ⟨result, htalk⟩ := plays_dropped hplays
    obtain ⟨_, notes, _, rfl, hnotes, hearly⟩ := plays_readEdid htalk
    obtain ⟨hleft, output, mask, enable, again, exchanges, early, rfl, hechoes⟩ :=
      plays_withDdc_pads hchannel hfits (Edid.readBlock_releases _ block) hearly
    exact ⟨hleft, output, mask, enable, again, exchanges, early, notes, rfl, hnotes, hechoes⟩
  | _ => cases hmonitor

/-- A call whose output has no channel touches nothing. -/
theorem plays_refused {call : Call} (hmonitor : call.monitor? = some id) {cause : Error}
    (hchannel : display.ddc id = .error cause) {events : List Event}
    {out : Except (Failure Error) Unit × Display}
    (hplays : (call.action.start display).Plays events out) :
    out.2 = display ∧ Untouched events := by
  cases call with
  | probeDdc other =>
    obtain rfl : other = id := Option.some.inj hmonitor
    obtain ⟨result, htalk⟩ := plays_dropped hplays
    obtain ⟨rfl, heq⟩ := (Program.plays_done _ _ _).mp (start_withDdc_refused hchannel _ ▸ htalk)
    exact ⟨congrArg Prod.snd heq, fun _ hmem ↦ absurd hmem List.not_mem_nil⟩
  | readEdid other block =>
    obtain rfl : other = id := Option.some.inj hmonitor
    obtain ⟨result, htalk⟩ := plays_dropped hplays
    obtain ⟨early, notes, _, rfl, hnotes, hearly⟩ := plays_readEdid htalk
    obtain ⟨rfl, heq⟩ := (Program.plays_done _ _ _).mp (start_withDdc_refused hchannel _ ▸ hearly)
    exact ⟨congrArg Prod.snd heq, hnotes⟩
  | _ => cases hmonitor

end Display

end Scanout
