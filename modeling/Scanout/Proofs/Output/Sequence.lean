import Scanout.Proofs.Display.Outputs

/-!
Switching several outputs as one list of writes. Only the panel link looks at what was written
before it, so the sequence carries along what the panel's power sequencer holds; where no panel link
is among the outputs, the list is the same whatever that is.
-/

set_option autoImplicit false
set_option relaxedAutoImplicit false

namespace Scanout.Output

open Register

/-- The writes that light an output. Those of the panel link reach a power sequencer, which held the
given value. -/
def lightWrites (id : Id) (pipe : Pipe) (sequencer : UInt32) : List (Direct × UInt32) :=
  routeWrite id pipe :: switchWrites id true sequencer

/-- The writes for several outputs, one after another. Those before an output may have changed the
power sequencer. -/
def eachWrites (one : Id → UInt32 → List (Direct × UInt32)) :
    List Id → UInt32 → List (Direct × UInt32)
  | [], _ => []
  | id :: rest, sequencer =>
    one id sequencer ++
      eachWrites one rest ((latest (one id sequencer) panelSequencer).getD sequencer)

/-- The writes that switch some outputs off. -/
def darkAllWrites : List Id → UInt32 → List (Direct × UInt32) :=
  eachWrites fun id ↦ switchWrites id false

/-- The writes that light some outputs. -/
def lightAllWrites (pipe : Pipe) : List Id → UInt32 → List (Direct × UInt32) :=
  eachWrites fun id ↦ lightWrites id pipe

variable {one : Id → UInt32 → List (Direct × UInt32)}

/-- Every write belongs to one of the outputs. -/
theorem exists_of_mem_eachWrites {ids : List Id} {sequencer : UInt32} {entry : Direct × UInt32}
    (hentry : entry ∈ eachWrites one ids sequencer) :
    ∃ id ∈ ids, ∃ held, entry ∈ one id held := by
  induction ids generalizing sequencer with
  | nil => cases hentry
  | cons id rest ih =>
    rcases List.mem_append.mp hentry with hfirst | hlater
    · exact ⟨id, List.mem_cons_self, sequencer, hfirst⟩
    · obtain ⟨other, hother, hmem⟩ := ih hlater
      exact ⟨other, List.mem_cons_of_mem _ hother, hmem⟩

/-- Every output has its writes. -/
theorem mem_eachWrites {ids : List Id} (sequencer : UInt32) :
    ∀ id ∈ ids, ∃ held, ∀ entry ∈ one id held, entry ∈ eachWrites one ids sequencer := by
  induction ids generalizing sequencer with
  | nil => simp
  | cons id rest ih =>
    rw [List.forall_mem_cons]
    refine ⟨⟨sequencer, fun entry ↦ List.mem_append_left _⟩, fun other hother ↦ ?_⟩
    obtain ⟨held, hreached⟩ := ih _ other hother
    exact ⟨held, fun entry hentry ↦ List.mem_append_right _ (hreached entry hentry)⟩

/-- Where no output looks at the sequencer, it does not matter. -/
theorem eachWrites_congr {ids : List Id}
    (hone : ∀ id ∈ ids, ∀ first second, one id first = one id second) (first second : UInt32) :
    eachWrites one ids first = eachWrites one ids second := by
  induction ids generalizing first second with
  | nil => rfl
  | cons id rest ih =>
    rw [List.forall_mem_cons] at hone
    rw [eachWrites, eachWrites, hone.1 first second, ih hone.2]

/-- The writes of an output that is not a panel link do not depend on the sequencer. -/
theorem switchWrites_congr {id : Id} (hkind : id.kind ≠ .lvds) (on : Bool)
    (first second : UInt32) : switchWrites id on first = switchWrites id on second := by
  rw [(switchWrites_of_ne hkind on first).1, (switchWrites_of_ne hkind on second).1]

/-- An output is lit inside its own block. -/
theorem region_lightWrites (id : Id) (pipe : Pipe) (sequencer : UInt32) :
    ∀ entry ∈ lightWrites id pipe sequencer, region entry.1.offset = .encoder id.block := by
  unfold lightWrites
  rw [List.forall_mem_cons]
  constructor
  · exact region_sourceSelect id.block
  · exact region_switchWrites id true sequencer

theorem run_darken (id : Id) (file : RegisterFile) :
    (darken id).run RegisterFile.port file =
      ((), file.store (switchWrites id false (file.value panelSequencer))) :=
  run_switch id false file

theorem run_light (pipe : Pipe) (id : Id) (file : RegisterFile) :
    (light pipe id).run RegisterFile.port file =
      ((), file.store (lightWrites id pipe (file.value panelSequencer))) := by
  have hkept : (file.store [routeWrite id pipe]).value panelSequencer =
      file.value panelSequencer := by
    refine file.value_store_of_ne ?_
    rw [List.forall_mem_singleton]
    exact register_ne_panelSequencer id.block .sourceSelect
  rw [light, Program.run_bind, RegisterFile.run_writeAll, Program.run_ask]
  show (switch id true).run RegisterFile.port (file.store [routeWrite id pipe]) = _
  rw [run_switch, hkept]
  rfl

/-- What stores some writes for each output stores all of them, one output after another. -/
theorem Each.run {step : Id → Hardware Unit} {all : List Id → Hardware Unit}
    (heach : Each step all)
    (hstep : ∀ id (file : RegisterFile), (step id).run RegisterFile.port file =
      ((), file.store (one id (file.value panelSequencer))))
    (ids : List Id) (file : RegisterFile) :
    (all ids).run RegisterFile.port file =
      ((), file.store (eachWrites one ids (file.value panelSequencer))) := by
  induction ids generalizing file with
  | nil =>
    rw [heach.nil]
    rfl
  | cons id rest ih =>
    rw [heach.cons, Program.run_bind, hstep, ih, RegisterFile.value_store,
      ← RegisterFile.store_append]
    rfl

/-- Switching outputs off is a list of writes. -/
theorem run_darkenAll (ids : List Id) (file : RegisterFile) :
    (darkenAll ids).run RegisterFile.port file =
      ((), file.store (darkAllWrites ids (file.value panelSequencer))) :=
  each_darkenAll.run run_darken ids file

/-- So is lighting them. -/
theorem run_lightAll (pipe : Pipe) (ids : List Id) (file : RegisterFile) :
    (lightAll pipe ids).run RegisterFile.port file =
      ((), file.store (lightAllWrites pipe ids (file.value panelSequencer))) :=
  (each_lightAll pipe).run (run_light pipe) ids file

end Scanout.Output
