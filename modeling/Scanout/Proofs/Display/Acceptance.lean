import Scanout.Proofs.Display.Exclusive
import Scanout.Proofs.Display.Faultless
import Scanout.Proofs.Display.Ready
import Scanout.Proofs.Pll.Search

/-!
Which requests are accepted. `Display.checks` lists what a request is asked for, each `Check` with
what it takes to pass and with the errors that say it did not; sizes and addresses in it are natural
numbers. A `Verdict` is what a list of checks comes to, one after another. The planning of a request
is followed one step at a time, each step deciding one check, so that it comes to the verdict of the
whole list (`plan_verdict`); on an engine that is ready a mode set then does so too.
-/

set_option autoImplicit false
set_option relaxedAutoImplicit false

namespace Scanout

open Register

/-- A condition on a request, and the errors that report that it does not hold. -/
structure Check where
  passes : Prop
  reports : Error → Prop

/-- What some checks come to: a value if they all pass, and else an error that reports the first one
that does not. -/
inductive Verdict {α : Type} : List Check → Except (Failure Error) α → Prop where
  | passed (value : α) : Verdict [] (.ok value)
  | failed {check : Check} {rest : List Check} {cause : Error} (hfails : ¬check.passes)
    (hreports : check.reports cause) : Verdict (check :: rest) (.error (.error cause))
  | next {check : Check} {rest : List Check} {result : Except (Failure Error) α}
    (hpasses : check.passes) (hrest : Verdict rest result) : Verdict (check :: rest) result

namespace Verdict

variable {α β : Type} {check : Check} {checks : List Check}

/-- There is a value exactly if every check passes. -/
theorem exists_ok_iff {result : Except (Failure Error) α} (hverdict : Verdict checks result) :
    (∃ value, result = .ok value) ↔ ∀ check ∈ checks, check.passes := by
  induction hverdict with
  | passed value => exact iff_of_true ⟨value, rfl⟩ (by simp)
  | failed hfails _ =>
    refine iff_of_false (by rintro ⟨_, ⟨⟩⟩) fun hall ↦ ?_
    exact hfails (hall _ List.mem_cons_self)
  | next hpasses _ ih =>
    rw [ih, List.forall_mem_cons]
    exact (and_iff_right hpasses).symm

/-- A step that decides one check, then the steps that decide the others. -/
theorem bind {first : Except (Failure Error) α} {rest : α → Except (Failure Error) β}
    (hfirst : Verdict [check] first)
    (hrest : ∀ value, first = .ok value → Verdict checks (rest value)) :
    Verdict (check :: checks) (first >>= rest) := by
  cases hfirst with
  | failed hfails hreports => exact .failed hfails hreports
  | next hpasses hnone =>
    cases hnone with
    | passed value => exact .next hpasses (hrest value rfl)

theorem map {result : Except (Failure Error) α} (hverdict : Verdict checks result) (change : α → β) :
    Verdict checks (result.map change) := by
  induction hverdict with
  | passed value => exact .passed (change value)
  | failed hfails hreports => exact .failed hfails hreports
  | next hpasses _ ih => exact .next hpasses ih

theorem of_ok (value : α) (hpasses : check.passes) :
    Verdict [check] (.ok value : Except (Failure Error) α) :=
  .next hpasses (.passed value)

end Verdict

namespace Display

/-- The outputs of a request can be fed: they all exist, no two of them are different outputs of one
block, and none is on the block of another output that is on. -/
structure Routable (display : Display) (outputs : List Output.Id) : Prop where
  known : ∀ id ∈ outputs, ∃ view ∈ display.outputs, view.id = id
  apart : ∀ first ∈ outputs, ∀ second ∈ outputs, first ≠ second → first.block ≠ second.block
  free : ∀ id ∈ outputs, ∀ view ∈ display.outputs, view.isActive = true → id ≠ view.id →
    id.block ≠ view.id.block

/-- Nothing is wrong with an output that is requested before some others. -/
structure Fits (display : Display) (id : Output.Id) (later : List Output.Id) : Prop where
  known : ∃ view ∈ display.outputs, view.id = id
  apart : ∀ other ∈ later, id ≠ other → id.block ≠ other.block
  free : ∀ view ∈ display.outputs, view.isActive = true → id ≠ view.id → id.block ≠ view.id.block

/-- What is wrong with the first output of a list that something is wrong with: that it does not
exist, or else that a later one is on its block, of which the first is named, or else that its block
is in use. -/
inductive Misrouted (display : Display) (pipe : Pipe) : List Output.Id → Error → Prop where
  | unknown {id : Output.Id} {later : List Output.Id}
    (hunknown : ∀ view ∈ display.outputs, view.id ≠ id) :
    Misrouted display pipe (id :: later) (.unknownOutput id)
  | clash {id other : Output.Id} {between later : List Output.Id}
    (hknown : ∃ view ∈ display.outputs, view.id = id)
    (hbetween : ∀ third ∈ between, id ≠ third → id.block ≠ third.block) (hother : id ≠ other)
    (hblock : id.block = other.block) :
    Misrouted display pipe (id :: (between ++ other :: later))
      (.invalidRouting other pipe clashReason)
  | busy {id : Output.Id} {later : List Output.Id} {view : Output.View}
    (hknown : ∃ view ∈ display.outputs, view.id = id)
    (hapart : ∀ other ∈ later, id ≠ other → id.block ≠ other.block)
    (hview : view ∈ display.outputs) (hactive : view.isActive = true) (hother : id ≠ view.id)
    (hblock : id.block = view.id.block) :
    Misrouted display pipe (id :: later) (.invalidRouting id pipe busyReason)
  | later {id : Output.Id} {rest : List Output.Id} {cause : Error} (hfits : display.Fits id rest)
    (hrest : Misrouted display pipe rest cause) : Misrouted display pipe (id :: rest) cause

/-- The end of the surface that a request asks for, if pixels have its depth. -/
def requestedStop (display : Display) (request : Request) : Nat :=
  let bytes := if request.depth = 15 ∨ request.depth = 16 then 2 else 4
  display.base.toNat + request.offset.toNat + request.width.toNat * request.height.toNat * bytes

section Checks

variable (display : Display) (pipe : Pipe) (request : Request)

/-- The outputs can be fed. -/
def routingCheck : Check where
  passes := display.Routable request.outputs
  reports := display.Misrouted pipe request.outputs

/-- Neither the mode asked for nor the one scanned out has a clock of zero. -/
def clockCheck : Check where
  passes := request.mode.clock ≠ 0 ∧ (display.scanMode request).clock ≠ 0
  reports cause := cause = .zeroClock

/-- A mode passes. -/
def modeCheck (mode : Mode) : Check where
  passes := mode.validate = .ok ()
  reports cause := ∃ flaw, mode.validate = .error flaw ∧ cause = .invalidMode flaw

/-- The depth is one that pixels can have. -/
def depthCheck : Check where
  passes := request.depth ∈ [15, 16, 24, 32]
  reports cause := cause = .unsupportedDepth request.depth

/-- The surface ends inside video memory, and has an address for its end. -/
def surfaceCheck : Check where
  passes := display.requestedStop request ≤
    min (display.base.toNat + display.size.toNat) (UInt32.size - 1)
  reports cause := cause = .surfaceTooLarge (display.requestedStop request)
    (if display.requestedStop request ≤ display.base.toNat + display.size.toNat
      then UInt32.size - 1 else display.base.toNat + display.size.toNat)

/-- The visible area lies inside the surface. -/
def viewportCheck : Check where
  passes := request.x.toNat + request.mode.h.display.toNat ≤ request.width.toNat ∧
    request.y.toNat + request.mode.v.display.toNat ≤ request.height.toNat
  reports cause := cause = .viewportOutOfBounds request.x request.y request.mode.h.display
    request.mode.v.display request.width request.height

/-- A setting of the PLL reaches the clock to scan out. -/
def pllCheck : Check where
  passes := ∃ candidate, display.device.chip.generation.pllLimits.Offers
    (display.scanMode request).clock.toNat candidate
  reports cause := cause = .noPllSolution (display.scanMode request).clock

/-- All checks of a request, in their order. -/
def checks : List Check :=
  [routingCheck display pipe request, clockCheck display request, modeCheck request.mode,
    modeCheck (display.scanMode request), depthCheck request, surfaceCheck display request,
    viewportCheck request, pllCheck display request]

end Checks

variable {display : Display} {pipe : Pipe} {request : Request}

theorem known_iff {id : Output.Id} :
    (∃ view, display.output? id = some view) ↔ ∃ view ∈ display.outputs, view.id = id := by
  constructor
  · rintro ⟨view, hfound⟩
    exact ⟨view, output?_mem hfound, output?_id hfound⟩
  · rintro ⟨view, hview, hid⟩
    rw [← Option.isSome_iff_exists, output?, List.find?_isSome]
    exact ⟨view, hview, decide_eq_true hid⟩

theorem sharesBlockWith_eq_false {id other : Output.Id} :
    id.sharesBlockWith other = false ↔ (id ≠ other → id.block ≠ other.block) := by
  rw [Output.Id.sharesBlockWith, decide_eq_false_iff_not, not_and]

theorem Routable.cons {id : Output.Id} {rest : List Output.Id} (hfits : display.Fits id rest)
    (hrest : display.Routable rest) : display.Routable (id :: rest) where
  known := List.forall_mem_cons.mpr ⟨hfits.known, hrest.known⟩
  apart := by
    intro first hfirst second hsecond hother
    rcases List.mem_cons.mp hfirst with rfl | hearlier <;>
      rcases List.mem_cons.mp hsecond with rfl | hlater
    · exact absurd rfl hother
    · exact hfits.apart second hlater hother
    · exact (hfits.apart first hearlier hother.symm).symm
    · exact hrest.apart first hearlier second hlater hother
  free := List.forall_mem_cons.mpr ⟨hfits.free, hrest.free⟩

theorem Routable.tail {id : Output.Id} {rest : List Output.Id}
    (hroutable : display.Routable (id :: rest)) : display.Routable rest where
  known := (List.forall_mem_cons.mp hroutable.known).2
  apart first hfirst second hsecond :=
    hroutable.apart first (List.mem_cons_of_mem _ hfirst) second (List.mem_cons_of_mem _ hsecond)
  free := (List.forall_mem_cons.mp hroutable.free).2

/-- Outputs of which something is wrong with one cannot all be fed. -/
theorem Misrouted.not_routable {ids : List Output.Id} {cause : Error}
    (hwrong : display.Misrouted pipe ids cause) : ¬display.Routable ids := by
  induction hwrong with
  | unknown hunknown =>
    intro hroutable
    obtain ⟨view, hview, hid⟩ := hroutable.known _ List.mem_cons_self
    exact hunknown view hview hid
  | clash _ _ hother hblock =>
    intro hroutable
    exact hroutable.apart _ List.mem_cons_self _ (by simp) hother hblock
  | busy _ _ hview hactive hother hblock =>
    intro hroutable
    exact hroutable.free _ List.mem_cons_self _ hview hactive hother hblock
  | later _ _ ih => exact fun hroutable ↦ ih hroutable.tail

/-- An output that nothing is wrong with leaves the routing to those behind it. -/
theorem checkRouting_fits (pipe : Pipe) (id : Output.Id) (rest : List Output.Id) :
    (display.checkRouting pipe (id :: rest) = display.checkRouting pipe rest ∧
        display.Fits id rest) ∨
      ∃ cause, display.checkRouting pipe (id :: rest) = .error cause ∧
        display.Misrouted pipe (id :: rest) cause := by
  rw [checkRouting]
  split
  · rename_i hnone
    refine .inr ⟨_, rfl, .unknown fun view hview hid ↦ ?_⟩
    obtain ⟨found, hfound⟩ := known_iff.mpr ⟨view, hview, hid⟩
    rw [hfound] at hnone
    cases hnone
  rename_i hsome
  rw [Option.isNone_iff_eq_none, ← ne_eq, Option.ne_none_iff_exists', known_iff] at hsome
  split
  · rename_i other hclash
    obtain ⟨hshares, between, later, rfl, hbetween⟩ := List.find?_eq_some_iff_append.mp hclash
    rw [Output.Id.sharesBlockWith, decide_eq_true_iff] at hshares
    refine .inr ⟨_, rfl, .clash hsome (fun third hthird ↦ ?_) hshares.1 hshares.2⟩
    exact sharesBlockWith_eq_false.mp (by simpa using hbetween third hthird)
  rename_i halone
  have hapart : ∀ other ∈ rest, id ≠ other → id.block ≠ other.block := fun other hother ↦
    sharesBlockWith_eq_false.mp (Bool.eq_false_iff.mpr (List.find?_eq_none.mp halone other hother))
  split
  · rename_i hbusy
    rw [isBusy, List.any_eq_true] at hbusy
    obtain ⟨view, hview, hboth⟩ := hbusy
    rw [Bool.and_eq_true, Output.Id.sharesBlockWith, decide_eq_true_iff] at hboth
    obtain ⟨hactive, hother, hblock⟩ := hboth
    exact .inr ⟨_, rfl, .busy hsome hapart hview hactive hother hblock⟩
  · rename_i hfree
    exact .inl ⟨rfl, hsome, hapart, fun view hview hactive ↦ sharesBlockWith_eq_false.mp
      (isBusy_eq_false.mp (Bool.eq_false_iff.mpr hfree) view hview hactive)⟩

/-- The routing of a request is decided by the outputs it names, one after the other. -/
theorem checkRouting_verdict (ids : List Output.Id) :
    Verdict [{ passes := display.Routable ids, reports := display.Misrouted pipe ids }]
      (Failure.ofError (display.checkRouting pipe ids)) := by
  have hcases : (display.checkRouting pipe ids = .ok () ∧ display.Routable ids) ∨
      ∃ cause, display.checkRouting pipe ids = .error cause ∧
        display.Misrouted pipe ids cause := by
    induction ids with
    | nil => exact .inl ⟨rfl, ⟨by simp, by simp, by simp⟩⟩
    | cons id rest ih =>
      obtain ⟨hsame, hfits⟩ | hwrong := checkRouting_fits pipe id rest
      · rw [hsame]
        rcases ih with ⟨hok, hrest⟩ | ⟨cause, herror, hrest⟩
        · exact .inl ⟨hok, hrest.cons hfits⟩
        · exact .inr ⟨cause, herror, .later hfits hrest⟩
      · exact .inr hwrong
  rcases hcases with ⟨hok, hroutable⟩ | ⟨cause, herror, hwrong⟩
  · rw [hok]
    exact .of_ok () hroutable
  · rw [herror]
    exact .failed hwrong.not_routable hwrong

theorem mode_verdict (mode : Mode) :
    Verdict [modeCheck mode] (Failure.ofError (mode.validate.mapError Error.invalidMode)) := by
  cases hvalid : mode.validate with
  | ok _ => exact .of_ok () hvalid
  | error flaw =>
    refine .failed (fun hpasses ↦ ?_) ⟨flaw, hvalid, rfl⟩
    cases hvalid.symm.trans hpasses

/-- Laying out a raster fails with the flaw of its mode, if it has one, and with nothing else. -/
theorem timing_verdict (mode : Mode) :
    Verdict [modeCheck mode] ((Timing.ofMode mode).mapError Error.ofFlaw) := by
  cases hvalid : mode.validate with
  | ok _ =>
    obtain ⟨timing, htiming⟩ := Timing.exists_ofMode hvalid
    rw [htiming]
    exact .of_ok timing hvalid
  | error flaw =>
    rw [Timing.ofMode, hvalid]
    refine .failed (fun hpasses ↦ ?_) ⟨flaw, hvalid, rfl⟩
    cases hvalid.symm.trans hpasses

theorem depth_mem {depth : UInt8} {format : Surface.Format}
    (hformat : Surface.Format.ofDepth? depth = some format) :
    depth ∈ [15, 16, 24, 32] ∧ format.bytesPerPixel = if depth = 15 ∨ depth = 16 then 2 else 4 := by
  rw [Surface.Format.ofDepth?] at hformat
  split at hformat
  · rename_i hdepth
    cases hformat
    simp [hdepth, Surface.Format.bytesPerPixel]
  split at hformat
  · rename_i hdepth
    cases hformat
    simp [hdepth, Surface.Format.bytesPerPixel]
  split at hformat
  · rename_i hdepth
    cases hformat
    rcases hdepth with rfl | rfl <;> simp [Surface.Format.bytesPerPixel]
  · cases hformat

theorem depth_not_mem {depth : UInt8} (hnone : Surface.Format.ofDepth? depth = none) :
    depth ∉ [15, 16, 24, 32] := by
  intro hdepth
  simp only [List.mem_cons, List.not_mem_nil, or_false] at hdepth
  rcases hdepth with rfl | rfl | rfl | rfl <;> cases hnone

/-- The end of a surface of sixteen-bit sizes, if its register holds it. -/
theorem surfaceStop_eq {surface : Surface} (hpitch : surface.pitch.toNat < UInt16.size)
    (hheight : surface.height.toNat < UInt16.size) :
    let stop := surface.location.toNat +
      surface.pitch.toNat * surface.height.toNat * surface.format.bytesPerPixel
    Pipe.surfaceStop surface = if stop < UInt32.size then .ok stop.toUInt32
      else .error (.error (.surfaceTooLarge stop (UInt32.size - 1))) := by
  obtain ⟨hpixels, hbytes⟩ := Surface.mul_sizes surface.format hpitch hheight
  have hlocation := surface.location.toNat_lt_size
  have hstop : surface.stop = .ok (surface.location.toNat +
      surface.pitch.toNat * surface.height.toNat * surface.format.bytesPerPixel) := by
    rw [Surface.stop, Surface.length, hpixels, Except.ok_bind, hbytes, Except.ok_bind]
    exact Surface.add_bytes surface.format (by omega) hpitch hheight
  rw [Pipe.surfaceStop, hstop]
  rfl

/-- A surface inside video memory is refused if there is no address for its end. -/
theorem surface_past {α : Type}
    (hinside : display.requestedStop request ≤ display.base.toNat + display.size.toNat)
    (hpast : UInt32.size ≤ display.requestedStop request) :
    Verdict [display.surfaceCheck request]
      (.error (.error (.surfaceTooLarge (display.requestedStop request) (UInt32.size - 1))) :
        Except (Failure Error) α) := by
  refine .failed (fun hpasses ↦ ?_) ?_
  · exact absurd (hpasses.trans (Nat.min_le_right _ _)) (by rw [UInt32.size] at *; omega)
  · exact congrArg (Error.surfaceTooLarge _) (if_pos hinside).symm

/-- The surface is decided by where it ends. -/
theorem surface_verdict {format : Surface.Format}
    (hformat : Surface.Format.ofDepth? request.depth = some format) :
    Verdict [display.surfaceCheck request] (display.planSurface request format) := by
  have hstop : display.requestedStop request = display.base.toNat + request.offset.toNat +
      request.width.toNat * request.height.toNat * format.bytesPerPixel := by
    rw [requestedStop, (depth_mem hformat).2]
  have hsize : ∀ size : UInt16, size.toUInt32.toNat = size.toNat ∧
      size.toUInt32.toNat < UInt16.size :=
    fun size ↦ ⟨UInt16.toNat_toUInt32 size, size.toNat_lt_size⟩
  rw [planSurface]
  dsimp only
  rw [← hstop]
  split
  · rename_i hpast
    refine .failed (fun hpasses ↦ ?_) ?_
    · exact Nat.not_le.mpr hpast (hpasses.trans (Nat.min_le_left _ _))
    · exact congrArg (Error.surfaceTooLarge _) (if_neg (Nat.not_le.mpr hpast)).symm
  rename_i hinside
  rw [Nat.not_lt] at hinside
  split
  · rename_i hspace
    refine surface_past hinside (hspace.trans ?_)
    rw [hstop]
    exact Nat.le_add_right _ _
  rename_i hspace
  -- What is left to check is the end, for the address itself fits.
  rw [Nat.not_le] at hspace
  rw [surfaceStop_eq (hsize request.width).2 (hsize request.height).2]
  dsimp only
  rw [(hsize request.width).1, (hsize request.height).1, UInt32.toNat_ofNat_of_lt' hspace, ← hstop]
  by_cases hfits : display.requestedStop request < UInt32.size
  · rw [if_pos hfits]
    exact .of_ok _ (Nat.le_min.mpr ⟨hinside, Nat.le_sub_one_of_lt hfits⟩)
  · rw [if_neg hfits]
    exact surface_past hinside (Nat.not_lt.mp hfits)

theorem viewport_verdict :
    Verdict [viewportCheck request] (Failure.ofError (checkViewport request)) := by
  rw [checkViewport]
  split
  · rename_i houtside
    refine .failed (fun hpasses ↦ ?_) rfl
    rcases houtside with hright | hbottom
    · exact Nat.not_le.mpr hright hpasses.1
    · exact Nat.not_le.mpr hbottom hpasses.2
  · rename_i hinside
    rw [not_or, Nat.not_lt, Nat.not_lt] at hinside
    exact .of_ok () hinside

theorem pll_verdict (hnonzero : (display.scanMode request).clock ≠ 0) :
    Verdict [display.pllCheck request]
      (Pll.synthesize display.device.chip.generation.pllLimits
        (display.scanMode request).clock) := by
  have hfaultless := Pll.synthesize_faultless display.device.chip.generation.pllLimits_sized
    (display.scanMode request).clock
  by_cases hoffered : ∃ candidate, display.device.chip.generation.pllLimits.Offers
      (display.scanMode request).clock.toNat candidate
  · have hpasses := hoffered
    obtain ⟨candidate, hcandidate⟩ := hoffered
    obtain ⟨solution, hsolution⟩ := Pll.exists_synthesize hfaultless hnonzero hcandidate
    rw [hsolution]
    exact .of_ok solution hpasses
  · rw [(Pll.synthesize_eq_noPllSolution_iff hfaultless hnonzero).mpr hoffered]
    exact .failed hoffered rfl

/-- A request is planned or refused as its checks say. -/
theorem plan_verdict (display : Display) (pipe : Pipe) (request : Request) :
    Verdict (display.checks pipe request) (display.plan pipe request) := by
  rw [plan, checks]
  refine .bind (checkRouting_verdict _) fun _ _ ↦ ?_
  dsimp only
  split
  · rename_i hzero
    exact .failed (fun hpasses ↦ hzero.elim hpasses.1 hpasses.2) rfl
  rename_i hclocks
  rw [not_or] at hclocks
  refine .next hclocks (.bind (mode_verdict _) fun _ _ ↦ .bind (timing_verdict _) fun timing _ ↦ ?_)
  split
  case h_1 format hformat =>
    refine .bind (.of_ok format (depth_mem hformat).1) fun _ hsame ↦ ?_
    cases hsame
    exact .bind (surface_verdict hformat) fun surface _ ↦ .bind viewport_verdict fun _ _ ↦
      .bind (pll_verdict hclocks.2) fun pll _ ↦ .passed _
  case h_2 hnone => exact .failed (depth_not_mem hnone) rfl

/-- In a run in which every status that is read says idle, a mode set succeeds exactly if the request
passes every check, and else answers with an error of the first check that it fails. -/
theorem applyMode_verdict {σ : Type} (handler : Handler Access.signature σ) (state : σ)
    (display : Display) (hpolls : display.device.config.idlePolls ≠ 0) (pipe : Pipe)
    (request : Request)
    (hready : ∀ event ∈ ((applyMode pipe request).start display).trace handler state,
      Event.SaysIdle event) :
    let result := (((applyMode pipe request).start display).run handler state).1.1
    (result = .ok () ↔ ∀ check ∈ display.checks pipe request, check.passes) ∧
      Verdict (display.checks pipe request) result := by
  have hresult := (applyMode_of_ready hpolls pipe request).granted handler state hready
  have hverdict := (plan_verdict display pipe request).map fun _ ↦ ()
  rw [← hresult] at hverdict
  refine ⟨?_, hverdict⟩
  rw [← hverdict.exists_ok_iff]
  exact ⟨fun hok ↦ ⟨(), hok⟩, fun ⟨_, hok⟩ ↦ hok⟩

/-- A request that passes until its surface is found to end a byte past video memory. -/
def deepRequest : Request :=
  { desktopRequest with offset := 0x0FD00001 }

/-- A desktop board scans out 1024 by 768 pixels from the start of its memory, and refuses to from
too close to the end. -/
theorem applyMode_verdict_desktop :
    (∀ event ∈ ((applyMode .first desktopRequest).start desktop).trace RegisterFile.port .cleared,
        Event.SaysIdle event) ∧
      desktop.device.config.idlePolls ≠ 0 ∧
      (∀ check ∈ desktop.checks .first desktopRequest, check.passes) ∧
      ¬∀ check ∈ desktop.checks .first deepRequest, check.passes := by
  have hready : ∀ event ∈
      ((applyMode .first desktopRequest).start desktop).trace RegisterFile.port .cleared,
      Event.SaysIdle event := by decide +kernel
  have hdeep : ∀ event ∈
      ((applyMode .first deepRequest).start desktop).trace RegisterFile.port .cleared,
      Event.SaysIdle event := by decide +kernel
  have hpolls : desktop.device.config.idlePolls ≠ 0 := by decide
  refine ⟨hready, hpolls, ?_, ?_⟩
  · exact (applyMode_verdict _ _ desktop hpolls .first desktopRequest hready).1.mp
      (Except.eq_ok (by decide +kernel))
  · rw [← (applyMode_verdict _ _ desktop hpolls .first deepRequest hdeep).1]
    decide +kernel

end Display

end Scanout
