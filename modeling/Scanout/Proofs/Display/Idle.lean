import Scanout.Proofs.Device.Idle
import Scanout.Proofs.Display.Programmed

/-!
A mode set that never has to wait for the engine. Its stages follow each other, so all it does to a
register file is one list of writes, and it leaves its plan scanned out. The list depends on the
file only through the panel's power sequencer, and only if a panel link is among the outputs.
-/

set_option autoImplicit false
set_option relaxedAutoImplicit false

namespace Scanout

open Register

namespace Pipe

/-- What the mode sets of both pipes write, and with the same values. -/
def commonWrites : List (Direct × UInt32) :=
  [(vga1Control, vgaDisabled), (vga2Control, vgaDisabled), (clockSource, ownClocks)]

theorem region_commonWrites : ∀ entry ∈ commonWrites,
    region entry.1.offset = .legacy ∨ region entry.1.offset = .clock := by
  decide

/-- The writes of the three stages of a mode set. -/
def stageWrites (pipe : Pipe) (plan : Plan) (stop : UInt32) : List (Direct × UInt32) :=
  pipe.stopWrites ++ (pipe.surfaceWrites plan stop ++ pipe.pllWrites plan.pll) ++
    pipe.drawWrites plan

/-- Apart from what is common, the stages write registers of the pipe and of its PLL. -/
theorem common_or_own_of_stageWrites {pipe : Pipe} {plan : Plan} {stop : UInt32} :
    ∀ entry ∈ pipe.stageWrites plan stop, entry ∈ commonWrites ∨
      region entry.1.offset = .pipe pipe ∨ region entry.1.offset = .pll pipe := by
  unfold stageWrites
  simp only [List.forall_mem_append]
  refine ⟨⟨?_, ?_, ?_⟩, fun entry hentry ↦ .inr (.inl (region_drawWrites pipe plan entry hentry))⟩
  · simp [stopWrites]
  · simp [surfaceWrites, commonWrites]
  · simp [pllWrites, dividerWrites, commonWrites]

/-- What is neither common nor the pipe's is not written by the stages. -/
theorem stageWrites_ne {pipe : Pipe} {plan : Plan} {stop : UInt32} {register : Direct}
    (hforeign : region register.offset ∉ pipe.ownRegions) :
    ∀ entry ∈ pipe.stageWrites plan stop, entry.1 ≠ register := by
  obtain ⟨hstop, hclock, hdraw⟩ := region_mem_ownRegions pipe plan stop
  rintro entry hentry rfl
  rcases List.mem_append.mp hentry with hearly | hlate
  · exact hforeign ((List.mem_append.mp hearly).elim (hstop entry) (hclock entry))
  · exact hforeign (hdraw entry hlate)

end Pipe

namespace Display

variable {display : Display} {pipe : Pipe} {request : Request} {plan : Pipe.Plan}
  {ids : List Output.Id} {stop : UInt32} {file : RegisterFile}

/-- The regions that a mode set has to itself: the pipe, its PLL, and the blocks of its outputs. -/
def Owns (pipe : Pipe) (ids : List Output.Id) : Region → Prop
  | .pipe owner | .pll owner => owner = pipe
  | .encoder block => ∃ id ∈ ids, id.block = block
  | .window | .legacy | .clock | .status | .monitor => False

/-- All the writes of a mode set, in a file whose power sequencer held the given value. -/
def modeWrites (pipe : Pipe) (ids : List Output.Id) (plan : Pipe.Plan) (stop sequencer : UInt32) :
    List (Direct × UInt32) :=
  let dark := Output.darkAllWrites ids sequencer
  dark ++ pipe.stageWrites plan stop ++
    Output.lightAllWrites pipe ids ((latest dark panelSequencer).getD sequencer)

/-- A mode set writes what is common to all, and what it has to itself. -/
theorem common_or_owns {sequencer : UInt32} :
    ∀ entry ∈ modeWrites pipe ids plan stop sequencer,
      entry ∈ Pipe.commonWrites ∨ Owns pipe ids (region entry.1.offset) := by
  intro entry hentry
  rcases List.mem_append.mp hentry with hearly | hlight
  · rcases List.mem_append.mp hearly with hdark | hstage
    · obtain ⟨id, hid, held, hmem⟩ := Output.exists_of_mem_eachWrites hdark
      rw [Output.region_switchWrites id false held entry hmem]
      exact .inr ⟨id, hid, rfl⟩
    · refine (Pipe.common_or_own_of_stageWrites entry hstage).imp_right ?_
      rintro (hregion | hregion) <;>
        · rw [hregion]
          rfl
  · obtain ⟨id, hid, held, hmem⟩ := Output.exists_of_mem_eachWrites hlight
    rw [Output.region_lightWrites id pipe held entry hmem]
    exact .inr ⟨id, hid, rfl⟩

/-- A register that is neither common nor owned is not written. -/
theorem modeWrites_ne {sequencer : UInt32} {register : Direct}
    (hcommon : region register.offset ≠ .legacy ∧ region register.offset ≠ .clock)
    (hforeign : ¬Owns pipe ids (region register.offset)) :
    ∀ entry ∈ modeWrites pipe ids plan stop sequencer, entry.1 ≠ register := by
  rintro entry hentry rfl
  rcases common_or_owns entry hentry with hmem | howns
  · exact (Pipe.region_commonWrites entry hmem).elim hcommon.1 hcommon.2
  · exact hforeign howns

/-- Without a panel link the sequencer does not matter. -/
theorem modeWrites_congr (hkind : ∀ id ∈ ids, id.kind ≠ .lvds) (first second : UInt32) :
    modeWrites pipe ids plan stop first = modeWrites pipe ids plan stop second := by
  have hdark : Output.darkAllWrites ids first = Output.darkAllWrites ids second :=
    Output.eachWrites_congr
      (fun id hid held other ↦ Output.switchWrites_congr (hkind id hid) false held other) _ _
  have hlight : ∀ held other,
      Output.lightAllWrites pipe ids held = Output.lightAllWrites pipe ids other :=
    Output.eachWrites_congr fun id hid held other ↦
      congrArg (List.cons _) (Output.switchWrites_congr (hkind id hid) true held other)
  rw [modeWrites, modeWrites, hdark, hlight]

/-- With an idle engine the three stages are one list of writes. -/
theorem run_modeStages_of_idle (hpolls : display.device.config.idlePolls ≠ 0) (hidle : file.Idle)
    (rest : Hardware (Except (Failure Error) Unit × Display)) :
    (display.modeStages pipe plan stop rest).run RegisterFile.port file =
      rest.run RegisterFile.port
        (file.store (pipe.stageWrites plan stop)).polled.polled.polled := by
  have hstatus : ∀ entry ∈ pipe.stageWrites plan stop, entry.1 ≠ engineStatus :=
    Pipe.stageWrites_ne (by simp [Pipe.ownRegions])
  simp only [Pipe.stageWrites, List.forall_mem_append] at hstatus
  obtain ⟨⟨hstop, hsurface⟩, hdraw⟩ := hstatus
  have hstopped := (hidle.store hstop).polled
  have hclocked := (hstopped.store (List.forall_mem_append.mpr hsurface)).polled
  rw [modeStages, Device.run_stage_of_idle hpolls hidle hstop,
    Device.run_stage_of_idle hpolls hstopped (List.forall_mem_append.mpr hsurface),
    Device.run_stage_of_idle hpolls hclocked hdraw]
  simp only [RegisterFile.store_polled, ← RegisterFile.store_append]
  rfl

/-- With an idle engine a program is one list of writes, and leaves its plan scanned out. -/
theorem run_program_of_idle (haccepted : display.Accepted pipe request plan)
    (hwired : (display.pipe pipe).pipe = pipe) (hstop : Pipe.surfaceStop plan.surface = .ok stop)
    (hpolls : display.device.config.idlePolls ≠ 0) (hidle : file.Idle) :
    ((program pipe request.outputs plan).start display).run RegisterFile.port file =
      ((.ok (), display.scanning pipe request.outputs plan),
        (file.store (modeWrites pipe request.outputs plan stop
          (file.value panelSequencer))).polled.polled.polled) := by
  obtain ⟨hh, hv⟩ := haccepted.totals
  have hdark : ∀ entry ∈ Output.darkAllWrites request.outputs (file.value panelSequencer),
      entry.1 ≠ engineStatus := by
    intro entry hentry
    obtain ⟨id, -, held, hmem⟩ := Output.exists_of_mem_eachWrites hentry
    refine ne_of_region ?_
    rw [Output.region_switchWrites id false held entry hmem]
    exact Region.noConfusion
  -- Between going dark and being lit again, no encoder is touched.
  have hkept : ∀ entry ∈ pipe.stageWrites plan stop, entry.1 ≠ panelSequencer :=
    Pipe.stageWrites_ne (by simp [Pipe.ownRegions])
  have hdarkPolls : (display.dark request.outputs).device.config.idlePolls ≠ 0 := hpolls
  let dark := Output.darkAllWrites request.outputs (file.value panelSequencer)
  have hsequencer :
      ((file.store dark).store (pipe.stageWrites plan stop)).polled.polled.polled.value
          panelSequencer = (latest dark panelSequencer).getD (file.value panelSequencer) := by
    simp only [RegisterFile.value_polled]
    rw [RegisterFile.value_store_of_ne _ hkept, RegisterFile.value_store]
  rw [start_program hwired haccepted.exists_output hstop hh hv, Program.run_bind,
    Output.run_darkenAll, run_modeStages_of_idle hdarkPolls (hidle.store hdark), Program.run_bind,
    Output.run_lightAll, hsequencer]
  simp only [RegisterFile.store_polled, ← RegisterFile.store_append]
  rfl

/-- So is a mode set, which shows writes to its own registers only. -/
theorem run_applyMode_of_idle (hplan : display.plan pipe request = .ok plan)
    (hwired : (display.pipe pipe).pipe = pipe) (hstop : Pipe.surfaceStop plan.surface = .ok stop)
    (hpolls : display.device.config.idlePolls ≠ 0) (hidle : file.Idle) :
    ((applyMode pipe request).start display).run RegisterFile.port file =
        ((.ok (), display.scanning pipe request.outputs plan),
          (file.store (modeWrites pipe request.outputs plan stop
            (file.value panelSequencer))).polled.polled.polled) ∧
      OnlyWrites (fun register _ ↦ Touches pipe request register)
        (((applyMode pipe request).start display).trace RegisterFile.port file) := by
  have haccepted := accepted_of_plan hplan
  have hrun := run_program_of_idle haccepted hwired hstop hpolls hidle
  have hprogram := OnlyWrites.of_meets (program_touches haccepted hwired) RegisterFile.port file
  constructor
  · rw [run_applyMode_eq hplan, hrun]
    rfl
  · rw [trace_applyMode_eq hplan, hrun, trace_conclude_ok rfl]
    exact .append (.of_silent (by simp)) (.append hprogram (.of_silent (by simp)))

end Display

end Scanout
