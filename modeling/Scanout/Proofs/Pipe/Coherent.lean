import Scanout.Proofs.Pipe.Programmed

/-!
What is cached of a pipe never contradicts its registers. The power says whether the pipe is
enabled wherever it is settled, and a raster or a surface that is known is the one that the
registers hold. Switching and mode sets keep this wherever they get stuck: a pipe on its way claims
no power, and a raster is forgotten before its registers change.

Each operation also leaves alone whatever other views stand for, so that it can be looked at by
itself.
-/

set_option autoImplicit false
set_option relaxedAutoImplicit false

namespace Scanout

open Register

theorem Surface.Format.bits_of_ofBits? {value : UInt32} {format : Format}
    (hformat : ofBits? value = some format) : format.bits = value := by
  rw [ofBits?] at hformat
  repeat
    split at hformat
    · cases hformat
      symm
      assumption
  cases hformat

namespace Pipe

/-- The registers that a view has its raster and its surface from. -/
def cachedRegisters : List PipeRegister :=
  rasterRegisters ++ [PipeRegister.surfaceLocation, .surfaceFormat, .pitch, .surfaceHeight]

theorem map_fst_surfaceFields (pipe : Pipe) (surface : Surface) :
    (pipe.surfaceFields surface).map Prod.fst =
      [PipeRegister.surfaceLocation, .surfaceFormat, .pitch, .surfaceHeight].map pipe.register :=
  rfl

theorem timingOf_congr {pipe : Pipe} {file other : RegisterFile}
    (hsame : ∀ name ∈ rasterRegisters,
      other.value (pipe.register name) = file.value (pipe.register name)) :
    timingOf other pipe = timingOf file pipe := by
  simp only [rasterRegisters, List.forall_mem_cons] at hsame
  obtain ⟨hTotal, hBlank, hSync, hPolarity, vTotal, vBlank, vSync, vPolarity, -⟩ := hsame
  simp only [timingOf, axisOf, hTotal, hBlank, hSync, hPolarity, vTotal, vBlank, vSync, vPolarity]

namespace View

/-- The raster and the surface that are known are those of the registers. -/
structure Pictures (view : View) (file : RegisterFile) : Prop where
  timing : ∀ timing, view.timing = some timing → timingOf file view.pipe = timing
  surface : ∀ surface, view.surface = some surface →
    file.Holds (view.pipe.surfaceFields surface)

/-- What is cached of a pipe does not contradict its registers. -/
structure Coherent (view : View) (file : RegisterFile) : Prop extends Pictures view file where
  on : view.power = .on → file.value (view.pipe.register .control) &&& pipeEnabled ≠ 0
  off : view.power = .off → file.value (view.pipe.register .control) &&& pipeEnabled = 0

variable {view : View} {file other : RegisterFile}

theorem Pictures.congr (hpictures : view.Pictures file)
    (hsame : ∀ name ∈ cachedRegisters,
      other.value (view.pipe.register name) = file.value (view.pipe.register name)) :
    view.Pictures other where
  timing timing htiming := by
    rw [timingOf_congr fun name hname ↦ hsame name (List.mem_append_left _ hname)]
    exact hpictures.timing timing htiming
  surface surface hsurface entry hentry := by
    have hmem := List.mem_map_of_mem (f := Prod.fst) hentry
    rw [map_fst_surfaceFields] at hmem
    obtain ⟨name, hname, hregister⟩ := List.mem_map.mp hmem
    rw [← hpictures.surface surface hsurface entry hentry, ← hregister]
    exact hsame name (List.mem_append_right _ hname)

theorem Coherent.congr (hcoherent : view.Coherent file)
    (hsame : ∀ name ∈ PipeRegister.control :: cachedRegisters,
      other.value (view.pipe.register name) = file.value (view.pipe.register name)) :
    view.Coherent other := by
  rw [List.forall_mem_cons] at hsame
  obtain ⟨hcontrol, hpicture⟩ := hsame
  refine ⟨hcoherent.toPictures.congr hpicture, fun hon ↦ ?_, fun hoff ↦ ?_⟩
  · rw [hcontrol]
    exact hcoherent.on hon
  · rw [hcontrol]
    exact hcoherent.off hoff

/-- Nothing contradicts a view of which nothing is known. -/
theorem Pictures.of_none (htiming : view.timing = none) (hsurface : view.surface = none)
    (file : RegisterFile) : view.Pictures file := by
  constructor
  · rw [htiming]
    rintro _ ⟨⟩
  · rw [hsurface]
    rintro _ ⟨⟩

/-- A pipe on its way claims no power. -/
theorem Pictures.coherent (hpictures : view.Pictures file) (hon : view.power ≠ .on)
    (hoff : view.power ≠ .off) : view.Coherent file :=
  ⟨hpictures, fun h ↦ absurd h hon, fun h ↦ absurd h hoff⟩

/-- Switching a pipe leaves its picture alone. -/
theorem Pictures.switched (hpictures : view.Pictures file) {writes : List (Direct × UInt32)}
    (hwrites : ∀ entry ∈ writes, entry.1 = view.pipe.register .scanEnable ∨
      entry.1 = view.pipe.register .control) (reads : Nat) :
    view.Pictures ((file.store writes).advance reads) := by
  refine hpictures.congr fun name hname ↦ ?_
  rw [RegisterFile.value_advance, file.value_store_of_ne]
  intro entry hentry heq
  have hname' : name = .scanEnable ∨ name = .control := by
    refine (hwrites entry hentry).imp (fun hentry ↦ ?_) fun hentry ↦ ?_ <;>
      exact pipe_register_injective _ _ _ (heq.symm.trans hentry)
  rcases hname' with rfl | rfl <;> revert hname <;> decide

/-- A view that was just read back is coherent. -/
theorem coherent_ofFile (file : RegisterFile) (pipe : Pipe) : (ofFile file pipe).Coherent file := by
  unfold ofFile
  split
  · rename_i hcontrol
    exact ⟨.of_none rfl rfl file, by rintro ⟨⟩, fun _ ↦ hcontrol⟩
  · rename_i hcontrol
    refine ⟨⟨?_, ?_⟩, fun _ ↦ hcontrol, by rintro ⟨⟩⟩
    · rintro _ ⟨⟩
      rfl
    · intro surface hsurface
      obtain ⟨format, hformat, rfl⟩ := Option.map_eq_some_iff.mp hsurface
      simp [RegisterFile.Holds, surfaceFields, Surface.Format.bits_of_ofBits? hformat]

end View

/-- The register is one that other views stand for. -/
def Elsewhere (pipe : Pipe) (register : Direct) : Prop :=
  (∃ other, other ≠ pipe ∧ region register.offset = .pipe other) ∨
    ∃ block, region register.offset = .encoder block

/-- What is done to a pipe leaves a coherent view of it, and the registers elsewhere alone. -/
structure View.Keeps (view : View) (file : RegisterFile) (changed : View)
    (left : RegisterFile) : Prop where
  pipe : changed.pipe = view.pipe
  coherent : changed.Coherent left
  elsewhere : file.Agrees view.pipe.Elsewhere left

theorem not_elsewhere_of_region {pipe : Pipe} {register : Direct}
    (hregion : region register.offset ∈ pipe.ownRegions) : ¬pipe.Elsewhere register := by
  unfold ownRegions at hregion
  rintro (⟨other, hother, heq⟩ | ⟨block, heq⟩) <;> rw [heq] at hregion
  · simp only [List.mem_cons, reduceCtorEq, Region.pipe.injEq, List.not_mem_nil, or_false,
      false_or] at hregion
    exact hother hregion
  · simp at hregion

/-- Switching a pipe reaches only its own registers. -/
theorem agrees_switched (pipe : Pipe) {writes : List (Direct × UInt32)}
    (hwrites : ∀ entry ∈ writes, entry.1 = pipe.register .scanEnable ∨
      entry.1 = pipe.register .control) (file : RegisterFile) (reads : Nat) :
    file.Agrees pipe.Elsewhere ((file.store writes).advance reads) := by
  refine file.agrees_store (fun entry hentry ↦ not_elsewhere_of_region ?_) reads
  rcases hwrites entry hentry with hregister | hregister <;> simp [hregister, ownRegions]

namespace View

variable {view : View} {file : RegisterFile}

theorem mem_startWrites (pipe : Pipe) : ∀ entry ∈ pipe.startWrites,
    entry.1 = pipe.register .scanEnable ∨ entry.1 = pipe.register .control := by
  simp [startWrites]

theorem mem_stopWrites (pipe : Pipe) : ∀ entry ∈ pipe.stopWrites,
    entry.1 = pipe.register .scanEnable ∨ entry.1 = pipe.register .control := by
  simp [stopWrites]

theorem value_startWrites (pipe : Pipe) (file : RegisterFile) :
    (file.store pipe.startWrites).value (pipe.register .control) = pipeEnabled := by
  rw [RegisterFile.value_store]
  cases pipe <;> rfl

theorem value_stopWrites (pipe : Pipe) (file : RegisterFile) :
    (file.store pipe.stopWrites).value (pipe.register .control) = 0 := by
  rw [RegisterFile.value_store]
  cases pipe <;> rfl

/-- Switching a pipe keeps a view whose power, if it claims one, is that of the writes. -/
theorem keeps_switched (hpictures : view.Pictures file) {writes : List (Direct × UInt32)}
    (hwrites : ∀ entry ∈ writes, entry.1 = view.pipe.register .scanEnable ∨
      entry.1 = view.pipe.register .control) {power : Power}
    (hon : power = .on →
      (file.store writes).value (view.pipe.register .control) &&& pipeEnabled ≠ 0)
    (hoff : power = .off →
      (file.store writes).value (view.pipe.register .control) &&& pipeEnabled = 0) (reads : Nat) :
    view.Keeps file { view with power } ((file.store writes).advance reads) := by
  have hkept := hpictures.switched hwrites reads
  refine ⟨rfl, ⟨⟨hkept.timing, hkept.surface⟩, hon, hoff⟩, ?_⟩
  exact agrees_switched view.pipe hwrites file reads

theorem keeps_stopping (hpictures : view.Pictures file) (reads : Nat) :
    view.Keeps file view.stopping ((file.store view.pipe.stopWrites).advance reads) :=
  keeps_switched hpictures (mem_stopWrites view.pipe) (by rintro ⟨⟩) (by rintro ⟨⟩) reads

theorem Coherent.meets_enable (hcoherent : view.Coherent file) (device : Device) :
    ((enable device).start view).Meets (.of RegisterFile.port)
      (fun out left ↦ view.Keeps file out.2 left) file := by
  rw [start_enable]
  have hwrites := mem_startWrites view.pipe
  refine Device.meets_stage (fun _ ↦ keeps_switched hcoherent.toPictures hwrites (by rintro ⟨⟩)
    (by rintro ⟨⟩)) fun reads ↦ .done (keeps_switched hcoherent.toPictures hwrites (fun _ ↦ ?_)
      (by rintro ⟨⟩) reads)
  rw [value_startWrites]
  decide

theorem Coherent.meets_disable (hcoherent : view.Coherent file) (device : Device) :
    ((disable device).start view).Meets (.of RegisterFile.port)
      (fun out left ↦ view.Keeps file out.2 left) file := by
  rw [start_disable]
  refine Device.meets_stage (fun _ ↦ keeps_stopping hcoherent.toPictures) fun reads ↦
    .done (keeps_switched hcoherent.toPictures (mem_stopWrites view.pipe) (by rintro ⟨⟩)
      (fun _ ↦ ?_) reads)
  rw [value_stopWrites]
  decide

theorem Coherent.meets_setPower (hcoherent : view.Coherent file) (device : Device)
    (request : Dpms) :
    ((setPower device request).start view).Meets (.of RegisterFile.port)
      (fun out left ↦ view.Keeps file out.2 left) file := by
  rw [start_setPower, Program.meets_bind, Program.meets_of_iff]
  show Program.Meets _ _ _ file
  split
  · exact hcoherent.meets_enable device
  · exact hcoherent.meets_disable device

/-- A view of a pipe that carries a plan knows its picture. -/
theorem pictures_planned {plan : Plan} {stop : UInt32}
    (hcarries : view.pipe.Carries plan stop file) {mode : Mode}
    (hof : Timing.ofMode mode = .ok plan.timing) : (view.planned plan).Pictures file where
  timing := by
    rintro _ ⟨⟩
    exact hcarries.timingOf_eq hof
  surface := by
    rintro _ ⟨⟩
    exact hcarries.surface_held

/-- Programming the surface and the PLL leaves the control register of the pipe alone. -/
theorem value_control_programmed (pipe : Pipe) (plan : Plan) (stop : UInt32) (file : RegisterFile) :
    (file.store (pipe.surfaceWrites plan stop ++ pipe.pllWrites plan.pll)).value
      (pipe.register .control) = file.value (pipe.register .control) := by
  refine file.value_store_of_ne fun entry hentry ↦ ?_
  rcases List.mem_append.mp hentry with hsurface | hpll
  · exact (region_surfaceWrites pipe plan stop entry hsurface).2.2
  · refine ne_of_region ?_
    rw [region_pipe]
    rcases region_pllWrites pipe plan.pll entry hpll with hregion | hregion <;>
      · rw [hregion]
        exact Region.noConfusion

/-- A mode set forgets the picture before it reprograms the pipe, and knows it again once every
register of it has been written. -/
theorem Coherent.meets_setMode (hcoherent : view.Coherent file) (device : Device) {plan : Plan}
    {stop : UInt32} {mode : Mode} (hstop : surfaceStop plan.surface = .ok stop)
    (hh : plan.timing.h.total ≠ 0) (hv : plan.timing.v.total ≠ 0)
    (hof : Timing.ofMode mode = .ok plan.timing) :
    ((setMode device plan).start view).Meets (.of RegisterFile.port)
      (fun out left ↦ view.Keeps file out.2 left) file := by
  obtain ⟨-, hclocking, hdrawing⟩ := region_mem_ownRegions view.pipe plan stop
  have hclock entry hentry := not_elsewhere_of_region (hclocking entry hentry)
  have hdraw entry hentry := not_elsewhere_of_region (hdrawing entry hentry)
  rw [start_setMode hstop hh hv]
  refine Device.meets_stage (fun _ ↦ keeps_stopping hcoherent.toPictures) fun first ↦ ?_
  have hstopped := (keeps_stopping hcoherent.toPictures first).elsewhere
  have hcontrol := value_stopWrites view.pipe file
  refine Device.meets_stage (fun _ second ↦ ?_) fun second ↦ ?_
  · refine ⟨rfl, ⟨.of_none rfl rfl _, by rintro ⟨⟩, fun _ ↦ ?_⟩,
      hstopped.trans (RegisterFile.agrees_store _ hclock second)⟩
    show (RegisterFile.advance _ _).value (view.pipe.register .control) &&& pipeEnabled = 0
    rw [RegisterFile.value_advance, value_control_programmed, RegisterFile.value_advance, hcontrol]
    decide
  · have hclocked := hstopped.trans (RegisterFile.agrees_store _ hclock second)
    have hcarries := carries_stages view.pipe plan stop
      ((file.store view.pipe.stopWrites).advance first) second
    refine Device.meets_stage (fun _ third ↦ ?_) fun third ↦ .done ?_
    · have hpictures := pictures_planned (hcarries third) hof
      exact ⟨rfl, Pictures.coherent ⟨hpictures.timing, hpictures.surface⟩ (by rintro ⟨⟩)
        (by rintro ⟨⟩), hclocked.trans (RegisterFile.agrees_store _ hdraw third)⟩
    · have hpictures := pictures_planned (hcarries third) hof
      refine ⟨rfl, ⟨⟨hpictures.timing, hpictures.surface⟩, fun _ ↦ ?_, by rintro ⟨⟩⟩,
        hclocked.trans (RegisterFile.agrees_store _ hdraw third)⟩
      show RegisterFile.value _ (view.pipe.register .control) &&& pipeEnabled ≠ 0
      rw [(hcarries third).runs.enabled]
      decide

end View

end Pipe

end Scanout
