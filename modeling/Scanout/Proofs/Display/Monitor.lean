import Scanout.Proofs.Display.CoherentSession
import Scanout.Proofs.Display.Faultless
import Scanout.Proofs.Display.Talk

/-!
Talking to a monitor does not disturb the display. Whichever way the monitor is reached and however
the talk ends, nothing that is cached changes and no register that a snapshot covers is written. The
hardware engine is reached through its seven registers. Pads are reached through three of theirs, of
which no bit changes but those of the two lines; no level is ever put out, and in the end no line is
pulled.
-/

set_option autoImplicit false
set_option relaxedAutoImplicit false

namespace Scanout

open Register

open Snapshot (Covers)

/-- No register of the monitor channel is covered by a snapshot. -/
theorem Snapshot.not_covers_channel {register : Direct} (hchannel : IsChannel register) :
    ¬Covers register := by
  have hregisters : ∀ register ∈ registers, region register.offset ≠ .monitor := by decide +kernel
  rintro (hmem | rfl | rfl)
  · exact hregisters register hmem hchannel
  · cases hchannel
  · cases hchannel

namespace I2c.Pads

/-- The registers that pads in the channel are driven with are in it as well. -/
theorem isChannel_drivers {base : Direct} (hbase : IsChannel base) (hfits : Fits base) :
    ∀ register ∈ drivers base, IsChannel register := by
  have hplace {offset : UInt32} (hoffset : offset ≤ padInput) : IsChannel (place base offset) :=
    isChannel_of_stride hbase (stride_place hfits hoffset)
  simp only [drivers, List.forall_mem_cons]
  exact ⟨hplace (by decide), hplace (by decide), hplace (by decide), by simp⟩

end I2c.Pads

namespace Display

open I2c.Controller (engineRegisters)
open I2c.Pads (Drives drivers place lineBits)

/-- Where an output of a usual board is reached line by line, its pads are in the channel. -/
theorem SameWiring.isChannel {origin display : Display} (hsame : origin.SameWiring display)
    (hfresh : origin.Fresh) {id : Output.Id} {base : Direct}
    (hddc : display.ddc id = .ok (.pads base)) : IsChannel base := by
  obtain ⟨wiring, hwiring, hpads⟩ := wiring_of_ddc hddc
  rw [hsame.wirings, hfresh.wirings] at hwiring
  exact (board_boardOutputs _).pads wiring hwiring base hpads

theorem ne_of_isChannel {register : Direct} (hchannel : IsChannel register) :
    register ≠ controllerData := by
  rintro rfl
  cases hchannel

/-- An output without a channel is refused. -/
theorem ddc_ne_none (display : Display) (id : Output.Id) : display.ddc id ≠ .ok .none := by
  unfold ddc
  split
  · exact fun heq ↦ nomatch heq
  · split
    · exact fun heq ↦ nomatch heq
    · rename_i hchannel
      exact fun heq ↦ hchannel (Except.ok.inj heq)

section Call

variable {display : Display} {call : Call} {id : Output.Id} {events : List Event}
  {out : Except (Failure Error) Unit × Display}

/-- Over the hardware engine a call writes the registers of the engine only. -/
theorem staysIn_hardware (hvalid : display.device.config.controller.validate = .ok ())
    (hmonitor : call.monitor? = some id) {connector : UInt8}
    (hchannel : display.ddc id = .ok (.hardware connector))
    (hplays : (call.action.start display).Plays events out) :
    out.2 = display ∧ StaysIn engineRegisters events := by
  obtain ⟨hleft, transfer, early, notes, _, -, rfl, hnotes, htransfer⟩ :=
    plays_hardware hvalid hmonitor hchannel hplays
  exact ⟨hleft, .append (I2c.Controller.staysIn_exchange htransfer) (.of_silent hnotes.silent)⟩

/-- Over pads a call writes the registers only that pads are driven with. -/
theorem staysIn_pads (hmonitor : call.monitor? = some id) {base : Direct}
    (hchannel : display.ddc id = .ok (.pads base)) (hfits : I2c.Pads.Fits base)
    (hplays : (call.action.start display).Plays events out) :
    out.2 = display ∧ StaysIn (drivers base) events := by
  obtain ⟨hleft, output, mask, enable, again, exchanges, early, notes, rfl, hnotes, hechoes, -⟩ :=
    plays_pads hmonitor hchannel hfits hplays
  exact ⟨hleft, .append (.append (I2c.Pads.takeover_staysIn _ _ _ _ _) hechoes.staysIn)
    (.of_silent hnotes.silent)⟩

/-- Pads that remember are driven as they may be, and pull no line when the call is over. -/
theorem drives_pads (hmonitor : call.monitor? = some id) {base : Direct}
    (hchannel : display.ddc id = .ok (.pads base)) (hfits : I2c.Pads.Fits base)
    (hplays : (call.action.start display).Plays events out) {held : Direct → UInt32}
    (hknown : ∀ register ∈ drivers base, Remembers register (held register) events) :
    WritesOver (Drives base) held events ∧
      recalled (place base padEnable) (held (place base padEnable)) events &&& lineBits = 0 := by
  obtain ⟨-, output, mask, enable, again, exchanges, early, notes, rfl, hnotes, hechoes,
    hreleased⟩ := plays_pads hmonitor hchannel hfits hplays
  obtain ⟨hdrives, hbits⟩ := I2c.Pads.session_drives hechoes hreleased fun register hregister ↦
    ((remembers_append ..).mp (hknown register hregister)).1
  refine ⟨hdrives.append (.of_silent hnotes.silent _), ?_⟩
  have hunwritten : ∀ event ∈ notes, ∀ word, event.written ≠ some (place base padEnable, word) := by
    intro event hevent word
    simp [hnotes.silent event hevent]
  rwa [recalled_append, recalled_of_unwritten _ _ hunwritten]

end Call

/-- On a usual board, in whatever state it was left, looking for a monitor and reading its
description leave everything cached and every register that a snapshot covers as they were, however
they end. The hardware engine is reached through its own registers. Of pads three registers are
written, in which only the bits of the lines change; as far as these registers remember, no output
value is set and the lines are released in the end. -/
theorem talk_undisturbing {adapter : Adapter} {config : Config} {origin display : Display}
    (hattach : attach adapter config = .ok origin) (hsame : origin.SameWiring display)
    {call : Call} {id : Output.Id} (hmonitor : call.monitor? = some id) (file : RegisterFile) :
    let program := call.action.start display
    let trace := program.trace RegisterFile.port file
    let left := program.run RegisterFile.port file
    left.1.2 = display ∧ OnlyWrites (fun register _ ↦ ¬Covers register) trace ∧
      (∀ connector, display.ddc id = .ok (.hardware connector) → StaysIn engineRegisters trace) ∧
      ∀ base, display.ddc id = .ok (.pads base) →
        StaysIn (drivers base) trace ∧
          ((∀ register ∈ drivers base, file.reports register.offset = false) →
            WritesOver (Drives base) file.value trace ∧
              left.2.value (place base padEnable) &&& lineBits = 0) := by
  intro program trace left
  obtain ⟨_, -, hbind⟩ := Except.bind_eq_ok.mp hattach
  have hbound := bound_of_attachWith hbind
  have hfresh := fresh_of_attach hattach
  have hvalid : display.device.config.controller.validate = .ok () := by
    rw [hsame.device, hbound.tuned]
    exact hbound.valid
  have hplays : program.Plays trace left.1 := Program.plays_trace RegisterFile.port program file
  have hengine : ∀ register ∈ engineRegisters, IsChannel register :=
    show ∀ register ∈ engineRegisters, region register.offset = .monitor by decide
  have huncovered {registers : List Direct} (hstays : StaysIn registers trace)
      (hchannel : ∀ register ∈ registers, IsChannel register) :
      OnlyWrites (fun register _ ↦ ¬Covers register) trace :=
    hstays.mono fun register _ hmem ↦ Snapshot.not_covers_channel (hchannel register hmem)
  have hdrivers {base : Direct} (hddc : display.ddc id = .ok (.pads base)) :
      ∀ register ∈ drivers base, IsChannel register :=
    I2c.Pads.isChannel_drivers (hsame.isChannel hfresh hddc) (hsame.padsFit hfresh id base hddc)
  have hpads {base : Direct} (hddc : display.ddc id = .ok (.pads base)) :=
    staysIn_pads hmonitor hddc (hsame.padsFit hfresh id base hddc) hplays
  refine ⟨?_, ?_, fun connector hddc ↦ (staysIn_hardware hvalid hmonitor hddc hplays).2,
    fun base hddc ↦ ⟨(hpads hddc).2, fun hquiet ↦ ?_⟩⟩
  · cases hddc : display.ddc id with
    | error cause => exact (plays_refused hmonitor hddc hplays).1
    | ok channel =>
      cases channel with
      | hardware connector => exact (staysIn_hardware hvalid hmonitor hddc hplays).1
      | pads base => exact (hpads hddc).1
      | none => exact absurd hddc (ddc_ne_none display id)
  · cases hddc : display.ddc id with
    | error cause => exact .of_silent (plays_refused hmonitor hddc hplays).2.silent
    | ok channel =>
      cases channel with
      | hardware connector =>
        exact huncovered (staysIn_hardware hvalid hmonitor hddc hplays).2 hengine
      | pads base => exact huncovered (hpads hddc).2 (hdrivers hddc)
      | none => exact absurd hddc (ddc_ne_none display id)
  · have hremembers {register : Direct} (hmem : register ∈ drivers base) :=
      file.remembers_trace (hquiet register hmem) (ne_of_isChannel (hdrivers hddc register hmem))
        program
    obtain ⟨hdrives, hbits⟩ := drives_pads hmonitor hddc (hsame.padsFit hfresh id base hddc) hplays
      fun register hmem ↦ (hremembers hmem).1
    rw [← (hremembers (by simp [drivers])).2]
    exact ⟨hdrives, hbits⟩

/-- A block behind the segment pointer is read over pads, and a monitor is looked for over the
engine. -/
theorem talk_undisturbing_desktop :
    let read := (Call.readEdid .dac1 3).action.start desktop
    let probe := (Call.probeDdc .tmds1).action.start desktop
    attach ⟨0x7146, 0, 0x10000000⟩ {} = .ok desktop ∧
      WritesOver (Drives padVga) RegisterFile.cleared.value
        (read.trace RegisterFile.port .cleared) ∧
      (read.run RegisterFile.port .cleared).2.value (place padVga padEnable) &&& lineBits = 0 ∧
      (probe.run RegisterFile.port .cleared).1.2 = desktop ∧
      StaysIn engineRegisters (probe.trace RegisterFile.port .cleared) := by
  have hread := talk_undisturbing attach_desktop ⟨rfl, rfl⟩
    (rfl : (Call.readEdid .dac1 3).monitor? = some .dac1) .cleared
  have hprobe := talk_undisturbing attach_desktop ⟨rfl, rfl⟩
    (rfl : (Call.probeDdc .tmds1).monitor? = some .tmds1) .cleared
  obtain ⟨hdrives, hbits⟩ := (hread.2.2.2 padVga rfl).2 (by decide)
  exact ⟨attach_desktop, hdrives, hbits, hprobe.1, hprobe.2.2.1 1 rfl⟩

end Display

end Scanout
