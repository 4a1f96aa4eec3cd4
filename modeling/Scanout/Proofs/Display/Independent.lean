import Mathlib.Data.List.Basic
import Scanout.Proofs.Display.Idle

/-!
The two pipes do not get into each other's way. Mode sets of different pipes whose outputs are on
different blocks have nothing in common but a few registers, to which both give the same values. So
a request is planned the same whether or not the other was applied before, it is written the same,
and in either order the registers and the cached state end up the same.
-/

set_option autoImplicit false
set_option relaxedAutoImplicit false

namespace Scanout

open Register

namespace Display

variable {display : Display} {pipe other : Pipe} {ids late : List Output.Id}
  {plan planned : Pipe.Plan} {request later : Request}

/-- Identities on different blocks are different. -/
theorem not_mem_of_blocks (hblocks : ∀ id ∈ ids, ∀ own ∈ late, id.block ≠ own.block) :
    ∀ id ∈ ids, id ∉ late :=
  fun id hid hlate ↦ hblocks id hid id hlate rfl

/-!
What is cached. A mode set changes its pipe and the views of its outputs.
-/

/-- The views of outputs that went dark and were lit again. -/
def relit (pipe : Pipe) (ids : List Output.Id) (views : List Output.View) : List Output.View :=
  Output.changeEach (fun view ↦ (view.routed pipe).switched true) ids
    (Output.changeEach (fun view ↦ view.switched false) ids views)

theorem scanning_eq (display : Display) (pipe : Pipe) (ids : List Output.Id) (plan : Pipe.Plan) :
    display.scanning pipe ids plan =
      { display.setPipe pipe ((display.pipe pipe).planned plan).started with
        outputs := relit pipe ids display.outputs } := by
  cases pipe <;> rfl

theorem relit_comm (hapart : ∀ id ∈ late, id ∉ ids) (views : List Output.View) :
    relit pipe ids (relit other late views) = relit other late (relit pipe ids views) := by
  have hdark : ∀ view : Output.View, (view.switched false).wiring = view.wiring := fun _ ↦ rfl
  have hlight : ∀ (pipe : Pipe) (view : Output.View),
      ((view.routed pipe).switched true).wiring = view.wiring := fun _ _ ↦ rfl
  unfold relit
  rw [Output.changeEach_comm _ hdark (hlight other) hapart,
    Output.changeEach_comm _ (hlight pipe) (hlight other) hapart,
    Output.changeEach_comm _ hdark hdark hapart,
    Output.changeEach_comm _ (hlight pipe) hdark hapart]

/-- What is cached does not depend on the order. -/
theorem scanning_comm (hother : pipe ≠ other) (hapart : ∀ id ∈ late, id ∉ ids)
    (display : Display) :
    (display.scanning other late planned).scanning pipe ids plan =
      (display.scanning pipe ids plan).scanning other late planned := by
  simp only [scanning_eq, relit_comm hapart]
  cases pipe <;> cases other <;> first | rfl | exact absurd rfl hother

/-!
What is planned. An output that is on only matters to those that share its block.
-/

theorem isBusy_scanning {id : Output.Id} (hblocks : ∀ own ∈ ids, id.block ≠ own.block)
    (display : Display) :
    (display.scanning pipe ids plan).isBusy id = display.isBusy id := by
  have hspared : ∀ views : List Output.View,
      (views.filter fun view ↦ view.id ∉ ids).any
          (fun view ↦ view.isActive && id.sharesBlockWith view.id) =
        views.any fun view ↦ view.isActive && id.sharesBlockWith view.id := by
    intro views
    rw [List.any_filter]
    refine List.any_congr rfl fun view ↦ ?_
    by_cases hid : view.id ∈ ids
    · simp [Output.Id.sharesBlockWith, hblocks view.id hid]
    · simp [hid]
  rw [isBusy, isBusy, ← hspared, filter_scanning, hspared]

theorem checkRouting_scanning (hblocks : ∀ id ∈ late, ∀ own ∈ ids, id.block ≠ own.block)
    (display : Display) :
    (display.scanning pipe ids plan).checkRouting other late = display.checkRouting other late := by
  induction late with
  | nil => rfl
  | cons id rest ih =>
    rw [List.forall_mem_cons] at hblocks
    rw [checkRouting, checkRouting, isBusy_scanning hblocks.1, ih hblocks.2, output?_scanning,
      Option.isNone_map]

theorem scanMode_scanning (hapart : ∀ id ∈ later.outputs, id ∉ ids) (display : Display) :
    (display.scanning pipe ids plan).scanMode later = display.scanMode later := by
  have hfound : ∀ id ∈ later.outputs,
      (display.scanning pipe ids plan).output? id = display.output? id := by
    intro id hid
    rw [output?_scanning]
    simp [hapart id hid]
  rw [scanMode, scanMode, List.filterMap_congr hfound]

/-- A request is planned as if the other had not been applied. -/
theorem plan_scanning (hblocks : ∀ id ∈ later.outputs, ∀ own ∈ ids, id.block ≠ own.block)
    (display : Display) :
    (display.scanning pipe ids plan).plan other later = display.plan other later := by
  have hsurface : ∀ format, (display.scanning pipe ids plan).planSurface later format =
      display.planSurface later format := by
    intro format
    rw [scanning_eq]
    cases pipe <;> rfl
  have hdevice : (display.scanning pipe ids plan).device = display.device := by
    rw [scanning_eq]
    cases pipe <;> rfl
  simp only [Display.plan, checkRouting_scanning hblocks, hsurface, hdevice,
    scanMode_scanning (not_mem_of_blocks hblocks)]

/-!
What is written. Where two mode sets meet they write the same, and only the panel link, which one of
them has at most, is sensitive to what was written before.
-/

/-- No region belongs to both. -/
theorem not_owns_of_owns (hother : pipe ≠ other)
    (hblocks : ∀ id ∈ ids, ∀ own ∈ late, id.block ≠ own.block) {region : Region}
    (howns : Owns pipe ids region) : ¬Owns other late region := by
  intro hlater
  cases region with
  | pipe owner => exact hother (howns.symm.trans hlater)
  | pll owner => exact hother (howns.symm.trans hlater)
  | encoder block =>
    obtain ⟨id, hid, rfl⟩ := howns
    obtain ⟨own, hown, hblock⟩ := hlater
    exact hblocks id hid own hown hblock.symm
  | window => exact howns
  | legacy => exact howns
  | clock => exact howns
  | status => exact howns
  | monitor => exact howns

theorem not_owns_of_common {register : Direct} {value : UInt32}
    (hentry : (register, value) ∈ Pipe.commonWrites) : ¬Owns pipe ids (region register.offset) := by
  rcases Pipe.region_commonWrites _ hentry with hregion | hregion <;>
    · rw [show region register.offset = _ from hregion]
      exact id

/-- No register is common with two values. -/
theorem nodup_commonWrites : (Pipe.commonWrites.map Prod.fst).Nodup := by
  decide

/-- Where two mode sets meet, they write the same. -/
theorem modeWrites_agree (hother : pipe ≠ other)
    (hblocks : ∀ id ∈ ids, ∀ own ∈ late, id.block ≠ own.block) {stop final held : UInt32}
    {kept : UInt32} :
    ∀ one ∈ modeWrites pipe ids plan stop held, ∀ two ∈ modeWrites other late planned final kept,
      one.1 = two.1 → one.2 = two.2 := by
  rintro ⟨register, value⟩ hone ⟨_, last⟩ htwo rfl
  rcases common_or_owns _ hone with hcommon | howns
  · rcases common_or_owns _ htwo with hshared | hforeign
    · exact Option.some.inj ((latest_of_mem nodup_commonWrites hcommon).symm.trans
        (latest_of_mem nodup_commonWrites hshared))
    · exact absurd hforeign (not_owns_of_common hcommon)
  · rcases common_or_owns _ htwo with hshared | hforeign
    · exact absurd howns (not_owns_of_common hshared)
    · exact absurd hforeign (not_owns_of_owns hother hblocks howns)

/-- The writes of the one do not depend on whether the other was written before. -/
theorem modeWrites_store (hother : pipe ≠ other)
    (hblocks : ∀ id ∈ ids, ∀ own ∈ late, id.block ≠ own.block) {stop final held : UInt32}
    (file : RegisterFile) :
    modeWrites pipe ids plan stop
        ((file.store (modeWrites other late planned final held)).value panelSequencer) =
      modeWrites pipe ids plan stop (file.value panelSequencer) := by
  by_cases hpanel : ∃ id ∈ ids, id.kind = .lvds
  · obtain ⟨id, hid, hkind⟩ := hpanel
    have howns : Owns pipe ids (region panelSequencer.offset) :=
      ⟨id, hid, by rw [Output.Id.block, hkind]⟩
    rw [file.value_store_of_ne (modeWrites_ne (by simp) (not_owns_of_owns hother hblocks howns))]
  · exact modeWrites_congr (fun id hid hkind ↦ hpanel ⟨id, hid, hkind⟩) _ _

/-!
One mode set after the other.
-/

/-- A mode set succeeds and leads from one state of the engine and its registers to another. On the
way it writes its own registers only. -/
structure Sets (pipe : Pipe) (request : Request) (before after : Display × RegisterFile) :
    Prop where
  run : ((applyMode pipe request).start before.1).run RegisterFile.port before.2 =
    ((.ok (), after.1), after.2)
  writes : OnlyWrites (fun register _ ↦ Touches pipe request register)
    (((applyMode pipe request).start before.1).trace RegisterFile.port before.2)

/-- What a mode set leaves in a file with an idle engine. -/
def left (pipe : Pipe) (ids : List Output.Id) (plan : Pipe.Plan) (stop : UInt32)
    (file : RegisterFile) : RegisterFile :=
  (file.store (modeWrites pipe ids plan stop (file.value panelSequencer))).polled.polled.polled

theorem idle_left {stop : UInt32} {file : RegisterFile} (hidle : file.Idle) :
    (left pipe ids plan stop file).Idle :=
  (hidle.store (modeWrites_ne (by simp) id)).polled.polled.polled

/-- In either order the registers end up the same. -/
theorem left_comm (hother : pipe ≠ other)
    (hblocks : ∀ id ∈ ids, ∀ own ∈ late, id.block ≠ own.block) {stop final : UInt32}
    (file : RegisterFile) :
    left pipe ids plan stop (left other late planned final file) =
      left other late planned final (left pipe ids plan stop file) := by
  have hflip : ∀ own ∈ late, ∀ id ∈ ids, own.block ≠ id.block :=
    fun own hown id hid heq ↦ hblocks id hid own hown heq.symm
  simp only [left, RegisterFile.value_polled, RegisterFile.store_polled,
    modeWrites_store hother hblocks, modeWrites_store hother.symm hflip]
  rw [RegisterFile.store_comm]
  · exact modeWrites_ne (by simp) id
  · exact modeWrites_ne (by simp) id
  · exact modeWrites_agree hother.symm hflip

/-- A request that is planned is set. -/
theorem sets_of_plan (hplan : display.plan pipe request = .ok plan) (hwired : display.Wired)
    {stop : UInt32} (hstop : Pipe.surfaceStop plan.surface = .ok stop)
    (hpolls : display.device.config.idlePolls ≠ 0) {file : RegisterFile} (hidle : file.Idle) :
    Sets pipe request (display, file)
      (display.scanning pipe request.outputs plan, left pipe request.outputs plan stop file) :=
  have hrun := run_applyMode_of_idle hplan (hwired pipe) hstop hpolls hidle
  ⟨hrun.1, hrun.2⟩

theorem device_scanning (display : Display) (pipe : Pipe) (ids : List Output.Id)
    (plan : Pipe.Plan) : (display.scanning pipe ids plan).device = display.device := by
  rw [scanning_eq]
  exact device_setPipe display pipe _

theorem Wired.scanning (hwired : display.Wired) : (display.scanning pipe ids plan).Wired := by
  intro owner
  by_cases howner : owner = pipe
  · rw [howner, pipe_scanning]
    exact hwired pipe
  · rw [pipe_scanning_of_ne howner]
    exact hwired owner

/-- Two requests that are accepted in one state, on different pipes and with their outputs on
different blocks, are set in either order, and the order makes no difference. -/
theorem applyMode_independent (display : Display) (hwired : display.Wired)
    (hpolls : display.device.config.idlePolls ≠ 0) (file : RegisterFile) (hidle : file.Idle)
    (first second : Request)
    (hblocks : ∀ id ∈ first.outputs, ∀ own ∈ second.outputs, id.block ≠ own.block)
    (hfirst : ∃ plan, display.plan .first first = .ok plan)
    (hsecond : ∃ plan, display.plan .second second = .ok plan) :
    ∃ one two both, Sets .first first (display, file) one ∧ Sets .second second one both ∧
      Sets .second second (display, file) two ∧ Sets .first first two both := by
  obtain ⟨plan, hplan⟩ := hfirst
  obtain ⟨planned, hplanned⟩ := hsecond
  obtain ⟨stop, hstop⟩ := (accepted_of_plan hplan).placed.fits
  obtain ⟨final, hfinal⟩ := (accepted_of_plan hplanned).placed.fits
  have hflip : ∀ own ∈ second.outputs, ∀ id ∈ first.outputs, own.block ≠ id.block :=
    fun own hown id hid heq ↦ hblocks id hid own hown heq.symm
  have hlater : (display.scanning .first first.outputs plan).plan .second second = .ok planned :=
    (plan_scanning hflip display).trans hplanned
  have hearlier : (display.scanning .second second.outputs planned).plan .first first = .ok plan :=
    (plan_scanning hblocks display).trans hplan
  have hone := sets_of_plan hplan hwired hstop hpolls hidle
  have htwo := sets_of_plan hplanned hwired hfinal hpolls hidle
  have hboth := sets_of_plan hlater hwired.scanning hfinal (by rwa [device_scanning])
    (idle_left hidle : (left .first first.outputs plan stop file).Idle)
  refine ⟨_, _, _, hone, hboth, htwo, ?_⟩
  rw [← scanning_comm (by decide) (not_mem_of_blocks hflip), ← left_comm (by decide) hblocks]
  exact sets_of_plan hearlier hwired.scanning hstop (by rwa [device_scanning]) (idle_left hidle)

/-- A picture for the outputs of a desktop board that the other request leaves free. -/
def secondRequest : Request :=
  { desktopRequest with outputs := [.dac2, .tmds1] }

/-- Both pipes of a desktop board at once. -/
theorem applyMode_independent_desktop :
    ∃ one two both, Sets .first desktopRequest (desktop, .cleared) one ∧
      Sets .second secondRequest one both ∧ Sets .second secondRequest (desktop, .cleared) two ∧
        Sets .first desktopRequest two both := by
  have hwired : desktop.Wired := (fresh_of_attach attach_desktop).wired
  have hblocks : ∀ id ∈ desktopRequest.outputs, ∀ own ∈ secondRequest.outputs,
      id.block ≠ own.block := by
    decide
  have hfirst : ∃ plan, desktop.plan .first desktopRequest = .ok plan :=
    Except.exists_of_isOk (by decide +kernel)
  have hsecond : ∃ plan, desktop.plan .second secondRequest = .ok plan :=
    Except.exists_of_isOk (by decide +kernel)
  exact applyMode_independent desktop hwired (by decide) .cleared RegisterFile.idle_cleared
    desktopRequest secondRequest hblocks hfirst hsecond

end Display

end Scanout
