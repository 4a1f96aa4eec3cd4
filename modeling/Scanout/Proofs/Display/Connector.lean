import Scanout.Proofs.Display.Talk
import Scanout.Proofs.I2c.Connector

/-!
Which connector a display's monitors are talked to on. The engine is one for all hardware outputs,
and each call binds a controller of its own to the connector of its output. The first call that
finds the engine disabled chooses the connector; the calls after it find the engine enabled, and
talk to that one, whichever output they are for (`session_connector`).
-/

set_option autoImplicit false
set_option relaxedAutoImplicit false

namespace Scanout

open Register

/-- Cutting up bytes leaves at least one piece. -/
theorem I2c.chunkSizes_ne_nil (chunk : Nat) {count : Nat} (hcount : count ≠ 0) :
    chunkSizes chunk count ≠ [] := by
  intro hnone
  obtain ⟨hfull, hrest⟩ := List.append_eq_nil_iff.mp hnone
  have hdiv : count / chunk = 0 := by simpa using congrArg List.length hfull
  have hmod : count % chunk = 0 := by simpa using hrest
  rw [← Nat.div_add_mod count chunk, hdiv, hmod] at hcount
  exact hcount (Nat.mul_zero chunk)

namespace Edid

open I2c

theorem probeTransfer_moves (chunk : Nat) : probeTransfer.moves chunk ≠ [] :=
  List.cons_ne_nil _ _

/-- The byte of an offset is always one chunk. -/
theorem writeChunks_singleton (chunk : Nat) (address : Address) (byte : UInt8) :
    Move.writeChunks chunk address [byte] ≠ [] := by
  rw [Move.writeChunks, if_neg (by simp)]
  cases hsizes : chunkSizes chunk [byte].length with
  | nil => exact absurd hsizes (chunkSizes_ne_nil chunk Nat.one_ne_zero)
  | cons size sizes => exact List.cons_ne_nil _ _

theorem blockTransfer_moves (chunk : Nat) (block : UInt8) :
    (blockTransfer block).moves chunk ≠ [] := by
  unfold blockTransfer
  split
  · exact fun hnone ↦ writeChunks_singleton _ _ _ (List.append_eq_nil_iff.mp hnone).1
  · exact List.cons_ne_nil _ _

end Edid

theorem I2c.Controller.Sticks.untouched {events : List Event} (hnotes : Untouched events) :
    Sticks events :=
  of_staysIn (.of_silent hnotes.silent : StaysIn [] events) (by decide) (by decide)

namespace Display

open I2c (connectorOf)
open I2c.Controller (Kicks Latched Sticks kicks kicks_append reached)

/-- The call is for an output whose monitor the hardware engine reaches on the connector. -/
def Connects (display : Display) (call : Call) (connector : UInt8) : Prop :=
  ∃ id, call.monitor? = some id ∧ display.ddc id = .ok (.hardware connector)

theorem Call.transfer_moves {call : Call} {transfer : I2c.Transfer}
    (htransfer : call.transfer? = some transfer) (chunk : Nat) : transfer.moves chunk ≠ [] := by
  cases call with
  | probeDdc id =>
    obtain rfl := Option.some.inj htransfer
    exact Edid.probeTransfer_moves chunk
  | readEdid id block =>
    obtain rfl := Option.some.inj htransfer
    exact Edid.blockTransfer_moves chunk block
  | _ => cases htransfer

/-- A session is its first call, whatever that comes to, and then the others. -/
theorem plays_session_cons {display : Display} {call : Call} {rest : List Call}
    {events : List Event} {out : Except (Failure Error) Unit × Display}
    (hplays : ((session (call :: rest)).start display).Plays events out) :
    ∃ early late result middle, events = early ++ late ∧
      (call.action.start display).Plays early (result, middle) ∧
        ((session rest).start middle).Plays late out := by
  rw [session, Action.start_bind, Action.start_attempt, Program.bind_bind,
    Program.plays_bind] at hplays
  obtain ⟨early, late, ⟨result, middle⟩, rfl, hcall, hrest⟩ := hplays
  exact ⟨early, late, result, middle, rfl, hcall, hrest⟩

section Reach

variable {display : Display} {call : Call} {connector : UInt8} {events : List Event}
  {out : Except (Failure Error) Unit × Display}

/-- A call leaves a latched engine latched where it was. -/
theorem Connects.sticks (hconnects : display.Connects call connector)
    (hvalid : display.device.config.controller.validate = .ok ())
    (hplays : (call.action.start display).Plays events out) :
    out.2 = display ∧ Sticks events := by
  obtain ⟨id, hmonitor, hchannel⟩ := hconnects
  obtain ⟨hleft, _, early, notes, _, -, rfl, hnotes, htransfer⟩ :=
    plays_hardware hvalid hmonitor hchannel hplays
  exact ⟨hleft, (Sticks.exchange htransfer).append (.untouched hnotes)⟩

/-- A call kicks something off, always on the connector that it reaches, and latches the engine on
that. -/
theorem Connects.latches (hconnects : display.Connects call connector)
    (hvalid : display.device.config.controller.validate = .ok ())
    (hplays : (call.action.start display).Plays events out) {control start : UInt32}
    (hcontrol : Remembers i2cControl control events) (hstart : Remembers i2cStart start events) :
    (∀ value ∈ kicks start events, Kicks (reached connector control start) value) ∧
      kicks start events ≠ [] ∧
        Latched (reached connector control start) (recalled i2cControl control events)
          (recalled i2cStart start events) := by
  obtain ⟨id, hmonitor, hchannel⟩ := hconnects
  obtain ⟨-, transfer, early, notes, _, hmakes, rfl, hnotes, htransfer⟩ :=
    plays_hardware hvalid hmonitor hchannel hplays
  rw [remembers_append] at hcontrol hstart
  obtain ⟨hkicks, hany⟩ := I2c.Controller.kicks_of_exchange htransfer hcontrol.1 hstart.1
  obtain ⟨hsome, hlatched⟩ := hany (Call.transfer_moves hmakes _)
  obtain ⟨hmore, hleft⟩ := Sticks.untouched hnotes _ _ _ hlatched hcontrol.2 hstart.2
  rw [kicks_append, recalled_append, recalled_append]
  exact ⟨List.forall_mem_append.mpr ⟨hkicks, hmore⟩, List.append_ne_nil_of_left_ne_nil hsome _,
    hleft⟩

end Reach

/-- The induction is on the calls: none of them moves a latched engine to another connector. -/
theorem session_sticks {display : Display}
    (hvalid : display.device.config.controller.validate = .ok ()) {calls : List Call}
    (hcalls : ∀ call ∈ calls, ∃ connector, display.Connects call connector) {events : List Event}
    {out : Except (Failure Error) Unit × Display}
    (hplays : ((session calls).start display).Plays events out) : Sticks events := by
  induction calls generalizing events with
  | nil =>
    obtain ⟨rfl, -⟩ := (Program.plays_done _ _ _).mp hplays
    exact .nil
  | cons call rest ih =>
    obtain ⟨⟨connector, hconnects⟩, hrest⟩ := List.forall_mem_cons.mp hcalls
    obtain ⟨early, late, result, middle, rfl, hcall, hsession⟩ := plays_session_cons hplays
    obtain ⟨rfl, hearly⟩ := hconnects.sticks hvalid hcall
    exact hearly.append (ih hrest hsession)

/-- A transfer talks to the connector of its controller where it finds the engine disabled, and
where the engine was enabled to the one that it was left on. So all calls of a session talk to the
connector that the first one reaches, and there is something that they say. -/
theorem session_connector {file : RegisterFile}
    (hcontrol : file.reports i2cControl.offset = false)
    (hstart : file.reports i2cStart.offset = false) :
    (∀ (controller : I2c.Controller) (transfer : I2c.Transfer) (link : I2c.Link),
      let trace := ((transfer.exchange controller).run.run link).trace RegisterFile.port file
      ∀ value ∈ kicks (file.value i2cStart) trace,
        Kicks (reached controller.connector (file.value i2cControl) (file.value i2cStart)) value) ∧
    ∀ (display : Display) (call : Call) (connector : UInt8) (rest : List Call),
      display.device.config.controller.validate = .ok () → display.Connects call connector →
        (∀ later ∈ rest, ∃ other, display.Connects later other) →
          let trace := ((session (call :: rest)).start display).trace RegisterFile.port file
          kicks (file.value i2cStart) trace ≠ [] ∧
            ∀ value ∈ kicks (file.value i2cStart) trace,
              Kicks (reached connector (file.value i2cControl) (file.value i2cStart)) value := by
  constructor
  · intro controller transfer link trace
    have hplays := Program.plays_trace RegisterFile.port
      ((transfer.exchange controller).run.run link) file
    exact (I2c.Controller.kicks_of_exchange hplays
      (file.remembers_trace hcontrol (by decide) _).1
      (file.remembers_trace hstart (by decide) _).1).1
  · intro display call connector rest hvalid hfirst hrest trace
    have hplays := Program.plays_trace RegisterFile.port
      ((session (call :: rest)).start display) file
    have hkeeps : Remembers i2cControl (file.value i2cControl) trace :=
      (file.remembers_trace hcontrol (by decide) _).1
    have hknows : Remembers i2cStart (file.value i2cStart) trace :=
      (file.remembers_trace hstart (by decide) _).1
    obtain ⟨early, late, result, middle, htrace, hcall, hsession⟩ := plays_session_cons hplays
    change trace = early ++ late at htrace
    rw [htrace, remembers_append] at hkeeps hknows
    obtain ⟨hkicks, hsome, hlatched⟩ := hfirst.latches hvalid hcall hkeeps.1 hknows.1
    obtain ⟨hleft, -⟩ := hfirst.sticks hvalid hcall
    change middle = display at hleft
    subst hleft
    obtain ⟨hmore, -⟩ := session_sticks hvalid hrest hsession _ _ _ hlatched hkeeps.2 hknows.2
    rw [htrace, kicks_append]
    exact ⟨List.append_ne_nil_of_left_ne_nil hsome _, List.forall_mem_append.mpr ⟨hkicks, hmore⟩⟩

/-- A board with two digital outputs, each on a connector of the hardware engine. -/
def twoHeads : Display where
  device := { chip := ⟨0x7146, "RV515", .rv515, false⟩, config := {} }
  first := { pipe := .first }
  second := { pipe := .second }
  outputs := [{ wiring := ⟨.tmds1, .hardware 1, none⟩ }, { wiring := ⟨.tmds2, .hardware 2, none⟩ }]
  saved := none
  base := 0
  size := 0x10000000

theorem attachWith_twoHeads : attachWith ⟨0x7146, 0, 0x10000000⟩ {}
    [⟨.tmds1, .hardware 1, none⟩, ⟨.tmds2, .hardware 2, none⟩] = .ok twoHeads := rfl

/-- Both monitors are looked for on the connector of the first one. -/
theorem session_connector_twoHeads :
    let trace := ((session [.probeDdc .tmds1, .probeDdc .tmds2]).start twoHeads).trace
      RegisterFile.port .completing
    twoHeads.Connects (.probeDdc .tmds1) 1 ∧ twoHeads.Connects (.probeDdc .tmds2) 2 ∧
      kicks 0 trace ≠ [] ∧ ∀ value ∈ kicks 0 trace, Kicks 1 value := by
  intro trace
  have hfirst : twoHeads.Connects (.probeDdc .tmds1) 1 := ⟨.tmds1, rfl, rfl⟩
  have hsecond : twoHeads.Connects (.probeDdc .tmds2) 2 := ⟨.tmds2, rfl, rfl⟩
  have hconnector : reached 1 (RegisterFile.completing.value i2cControl)
      (RegisterFile.completing.value i2cStart) = 1 := by decide
  refine ⟨hfirst, hsecond, ?_⟩
  rw [← hconnector]
  exact (session_connector (by decide) (by decide)).2 twoHeads _ 1 [.probeDdc .tmds2] rfl hfirst
    (List.forall_mem_singleton.mpr ⟨2, hsecond⟩)

/-- Nothing moves the engine to the second connector when the second monitor is looked for. -/
theorem probe_misses_connector :
    attachWith ⟨0x7146, 0, 0x10000000⟩ {}
        [⟨.tmds1, .hardware 1, none⟩, ⟨.tmds2, .hardware 2, none⟩] = .ok twoHeads ∧
    let left := (((Call.probeDdc .tmds1).action.start twoHeads).run RegisterFile.port .completing).2
    let trace := ((Call.probeDdc .tmds2).action.start twoHeads).trace RegisterFile.port left
    twoHeads.Connects (.probeDdc .tmds2) 2 ∧
      (kicks (left.value i2cStart) trace).map connectorOf = [1] :=
  ⟨attachWith_twoHeads, ⟨.tmds2, rfl, rfl⟩, by decide +kernel⟩

end Display

end Scanout
