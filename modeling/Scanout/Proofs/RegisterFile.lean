import Scanout.Proofs.Hardware
import Scanout.Proofs.Register.Packed
import Scanout.Proofs.Register.Region

/-!
The device as a memory. A `RegisterFile` answers a read with what was last written, except for
registers that report what the hardware is doing: those answer from a sequence that is given and
may be anything at all. Behind the window of the memory controller there may be a space of its own,
reached through the index register; a file without one keeps the data register like any other.

A program is played against it with `RegisterFile.port`. The statements about registers need only
`value_store` and its corollaries: what a list of writes leaves in a register is the last value the
list gives it, and what was there before if it gives none.
-/

set_option autoImplicit false
set_option relaxedAutoImplicit false

namespace Scanout

open Register

/-- A register file whose registers keep what is written to them. -/
structure RegisterFile where
  /-- What every mapped register holds. -/
  cells : UInt32 → UInt32
  /-- What every register in the memory controller's own space holds. -/
  hidden : UInt32 → UInt32
  /-- The window reaches the controller's own space. -/
  windowed : Bool
  /-- The registers whose reads answer for themselves. -/
  reports : UInt32 → Bool
  /-- The engine status and the monitor channel are all that may report. -/
  reports_region : ∀ offset, reports offset = true →
    region offset = .status ∨ region offset = .monitor
  /-- What these reads are going to answer, in order. -/
  answers : Nat → UInt32

namespace RegisterFile

/-- A file in which every register is clear and the engine is always idle. -/
def cleared : RegisterFile where
  cells _ := 0
  hidden _ := 0
  windowed := true
  reports offset := offset = engineStatus.offset
  reports_region offset hreports := .inl (by rw [of_decide_eq_true hreports]; rfl)
  answers _ := engineIdle

/-- A file in which every register is clear and the monitor engine is always done. -/
def completing : RegisterFile where
  cells _ := 0
  hidden _ := 0
  windowed := true
  reports offset := offset = i2cStatus.offset
  reports_region offset hreports := .inr (by rw [of_decide_eq_true hreports]; rfl)
  answers _ := i2cDone

/-- What a register holds. -/
def value (file : RegisterFile) (register : Direct) : UInt32 :=
  file.cells register.offset

/-- The address of the controller register that the window is at. -/
def selected (file : RegisterFile) : UInt32 :=
  file.value controllerIndex &&& controllerOffsetMask

/-- The window lets writes through. -/
def isWritable (file : RegisterFile) : Bool :=
  file.value controllerIndex &&& 0x00800000 != 0

/-- The file after so many reads of reporting registers. -/
def advance (file : RegisterFile) (reads : Nat) : RegisterFile :=
  { file with answers := fun index ↦ file.answers (index + reads) }

/-- The answer to a read, and the file it leaves. -/
def read (file : RegisterFile) (offset : UInt32) : UInt32 × RegisterFile :=
  if file.reports offset then (file.answers 0, file.advance 1)
  else if file.windowed ∧ offset = controllerData.offset then (file.hidden file.selected, file)
  else (file.cells offset, file)

/-- The file after a write. -/
def write (file : RegisterFile) (offset value : UInt32) : RegisterFile :=
  { file with
    cells := fun other ↦ if other = offset then value else file.cells other
    hidden := fun other ↦
      if offset = controllerData.offset ∧ file.isWritable ∧ other = file.selected then value
      else file.hidden other }

/-- The register file at the other side of the port. -/
def port : Handler Access.signature RegisterFile where
  answer request file :=
    match request with
    | .read offset => file.read offset
    | .write offset value => ((), file.write offset value)
    | .delay _ | .note _ => ((), file)

/-- The file after a list of writes. -/
def store (file : RegisterFile) (writes : List (Direct × UInt32)) : RegisterFile :=
  writes.foldl (fun file entry ↦ file.write entry.1.offset entry.2) file

/-- What a controller register reads as through the window. -/
def controllerValue (file : RegisterFile) (register : Controller) : UInt32 :=
  if file.windowed then file.hidden (register.offset &&& controllerOffsetMask)
  else file.value controllerData

variable (file : RegisterFile)

@[simp] theorem value_advance (reads : Nat) (register : Direct) :
    (file.advance reads).value register = file.value register := rfl

theorem advance_advance (first second : Nat) :
    (file.advance first).advance second = file.advance (second + first) := by
  simp only [advance, Nat.add_assoc]

theorem value_write (written register : Direct) (value : UInt32) :
    (file.write written.offset value).value register =
      if written = register then value else file.value register := by
  obtain ⟨written⟩ := written
  obtain ⟨register⟩ := register
  simp only [RegisterFile.value, write, Direct.mk.injEq, eq_comm]

theorem value_store (writes : List (Direct × UInt32)) (register : Direct) :
    (file.store writes).value register =
      (latest writes register).getD (file.value register) := by
  induction writes generalizing file with
  | nil => rfl
  | cons head rest ih =>
    show ((file.write head.1.offset head.2).store rest).value register = _
    rw [ih, value_write, latest]
    cases latest rest register with
    | some value => rfl
    | none => by_cases heq : head.1 = register <;> simp [heq]

/-- What a list of writes does not name, it leaves alone. -/
theorem value_store_of_ne {writes : List (Direct × UInt32)} {register : Direct}
    (hother : ∀ entry ∈ writes, entry.1 ≠ register) :
    (file.store writes).value register = file.value register := by
  rw [value_store, latest_eq_none hother]
  rfl

/-- A register that was written holds one of the values that it was written with. -/
theorem mem_store {writes : List (Direct × UInt32)} {register : Direct}
    (hwritten : ∃ value, (register, value) ∈ writes) :
    (register, (file.store writes).value register) ∈ writes := by
  obtain ⟨value, hlatest, hmem⟩ := exists_latest hwritten
  rw [value_store, hlatest]
  exact hmem

/-- After some writes a register holds a value that it was written with, or what it held before. -/
theorem store_cases (writes : List (Direct × UInt32)) (register : Direct) :
    (register, (file.store writes).value register) ∈ writes ∨
      (file.store writes).value register = file.value register := by
  by_cases hwritten : ∃ value, (register, value) ∈ writes
  · exact .inl (file.mem_store hwritten)
  · refine .inr (file.value_store_of_ne ?_)
    rintro entry hentry rfl
    exact hwritten ⟨entry.2, hentry⟩

@[simp] theorem store_nil : file.store [] = file := rfl

theorem store_append (first second : List (Direct × UInt32)) :
    file.store (first ++ second) = (file.store first).store second := by
  simp only [store, List.foldl_append]

/-- Another file holds the same in all registers of a kind. -/
def Agrees (kind : Direct → Prop) (other : RegisterFile) : Prop :=
  ∀ register, kind register → other.value register = file.value register

theorem Agrees.refl (kind : Direct → Prop) : file.Agrees kind file :=
  fun _ _ ↦ rfl

variable {file} in
theorem Agrees.trans {kind : Direct → Prop} {middle other : RegisterFile}
    (hfirst : file.Agrees kind middle) (hsecond : middle.Agrees kind other) :
    file.Agrees kind other :=
  fun register hregister ↦ (hsecond register hregister).trans (hfirst register hregister)

variable {file} in
theorem Agrees.mono {kind wider : Direct → Prop} {other : RegisterFile}
    (hagrees : file.Agrees wider other) (himp : ∀ register, kind register → wider register) :
    file.Agrees kind other :=
  fun register hregister ↦ hagrees register (himp register hregister)

/-- Writes of other kinds and reads that report do not matter. -/
theorem agrees_store {kind : Direct → Prop} {writes : List (Direct × UInt32)}
    (hother : ∀ entry ∈ writes, ¬kind entry.1) (reads : Nat) :
    file.Agrees kind ((file.store writes).advance reads) := by
  intro register hregister
  rw [value_advance, file.value_store_of_ne]
  rintro entry hentry rfl
  exact hother entry hentry hregister

/-- The file holds the values of a list of writes. -/
def Holds (writes : List (Direct × UInt32)) : Prop :=
  ∀ entry ∈ writes, file.value entry.1 = entry.2

variable {file} in
theorem Holds.mono {writes more : List (Direct × UInt32)} (hholds : file.Holds more)
    (hsubset : ∀ entry ∈ writes, entry ∈ more) : file.Holds writes :=
  fun entry hentry ↦ hholds entry (hsubset entry hentry)

variable {file} in
/-- Writing other registers leaves what the file holds. -/
theorem Holds.store {writes more : List (Direct × UInt32)} (hholds : file.Holds writes)
    (hother : ∀ entry ∈ writes, ∀ written ∈ more, written.1 ≠ entry.1) :
    (file.store more).Holds writes := by
  intro entry hentry
  rw [file.value_store_of_ne (hother entry hentry)]
  exact hholds entry hentry

variable {file} in
theorem Holds.advance {writes : List (Direct × UInt32)} (hholds : file.Holds writes)
    (reads : Nat) : (file.advance reads).Holds writes :=
  hholds

/-- A list that writes no register twice is held once it was written. -/
theorem holds_store {writes : List (Direct × UInt32)} (hnodup : (writes.map Prod.fst).Nodup) :
    (file.store writes).Holds writes := by
  rintro ⟨register, value⟩ hentry
  rw [value_store, latest_of_mem hnodup hentry]
  rfl

/-- Only the data register of the window reaches further than the registers that are written. -/
theorem store_eq {writes : List (Direct × UInt32)}
    (hdata : ∀ entry ∈ writes, entry.1 ≠ controllerData) :
    file.store writes = { file with cells := (file.store writes).cells } := by
  induction writes generalizing file with
  | nil => rfl
  | cons head rest ih =>
    obtain ⟨⟨offset⟩, value⟩ := head
    rw [List.forall_mem_cons] at hdata
    have hother : offset ≠ controllerData.offset := fun heq ↦ hdata.1 (congrArg Direct.mk heq)
    show (file.write offset value).store rest =
      { file with cells := ((file.write offset value).store rest).cells }
    rw [ih (file.write offset value) hdata.2]
    simp only [write, hother, false_and, if_false]

/-- Lists that give the same values where they meet may be stored in either order. -/
theorem store_comm {first second : List (Direct × UInt32)}
    (hfirst : ∀ entry ∈ first, entry.1 ≠ controllerData)
    (hsecond : ∀ entry ∈ second, entry.1 ≠ controllerData)
    (hagree : ∀ one ∈ first, ∀ other ∈ second, one.1 = other.1 → one.2 = other.2) :
    (file.store first).store second = (file.store second).store first := by
  have hvalue : ∀ register, ((file.store first).store second).value register =
      ((file.store second).store first).value register := by
    intro register
    simp only [value_store]
    cases hone : latest first register with
    | none => rfl
    | some one =>
      cases hother : latest second register with
      | none => rfl
      | some other => exact (hagree _ (mem_of_latest hone) _ (mem_of_latest hother) rfl).symm
  have hcells : (file.store (first ++ second)).cells = (file.store (second ++ first)).cells := by
    rw [store_append, store_append]
    exact funext fun offset ↦ hvalue ⟨offset⟩
  rw [← store_append, ← store_append, file.store_eq (List.forall_mem_append.mpr ⟨hfirst, hsecond⟩),
    file.store_eq (List.forall_mem_append.mpr ⟨hsecond, hfirst⟩), hcells]

/-- A register outside the window and the reporting regions reads as what it holds. -/
theorem read_of_stored {offset : UInt32} (hstored : (region offset).isStored = true) :
    file.read offset = (file.cells offset, file) := by
  have hquiet : file.reports offset = false := by
    rw [Bool.eq_false_iff]
    intro hreports
    rcases file.reports_region offset hreports with hregion | hregion <;>
      · rw [hregion] at hstored
        cases hstored
  have hdata : offset ≠ controllerData.offset := by
    rintro rfl
    cases hstored
  simp [read, hquiet, hdata]

/-!
What programs do to a file. A program that writes nothing leaves everything but the pending
answers; a list of writes leaves `store`.
-/

theorem run_read {register : Direct} (hstored : (region register.offset).isStored = true) :
    (Hardware.read register).run port file = (file.value register, file) :=
  file.read_of_stored hstored

@[simp] theorem run_writeAll (writes : List (Direct × UInt32)) :
    (Hardware.writeAll writes).run port file = ((), file.store writes) := by
  induction writes generalizing file with
  | nil => rfl
  | cons head rest ih =>
    obtain ⟨register, value⟩ := head
    rw [Hardware.writeAll, Program.run_bind]
    exact ih (file.write register.offset value)

/-- What clearing and setting bits leaves in a register. -/
def modified (register : Direct) (clear set : UInt32) : UInt32 :=
  (file.value register &&& ~~~clear) ||| set

theorem run_update {register : Direct} (clear set : UInt32)
    (hstored : (region register.offset).isStored = true) :
    (Hardware.update register clear set).run port file =
      ((), file.store [(register, file.modified register clear set)]) := by
  simp only [Hardware.update, Hardware.modify, Program.bind_eq, Program.pure_eq,
    Program.run_bind, file.run_read hstored]
  rfl

/-- A program that writes registers of other kinds does not matter to one kind. -/
theorem agrees_of_within {kind : Direct → Prop} {α : Type} {program : Hardware α}
    (hwithin : program.IsWithin fun register ↦ ¬kind register) :
    file.Agrees kind (program.run port file).2 := by
  suffices hmeets : program.Meets (.of port) (fun _ left ↦ file.Agrees kind left) file from
    (Program.meets_of_iff port program file).mp hmeets
  refine hwithin.preserves ?_ (.refl file kind)
  intro request middle hrequest hmiddle
  cases request with
  | read offset =>
    show file.Agrees kind (middle.read offset).2
    rw [read]
    split
    · exact hmiddle
    · split <;> exact hmiddle
  | write offset value =>
    have hother : ∀ entry ∈ [(Direct.mk offset, value)], ¬kind entry.1 := by
      rw [List.forall_mem_singleton]
      exact hrequest offset value rfl
    exact hmiddle.trans (middle.agrees_store hother 0)
  | delay microseconds => exact hmiddle
  | note entry => exact hmiddle

/-- A program that writes nothing only uses up answers. -/
theorem run_of_silent {α : Type} {post : α → Unit → Prop} {program : Hardware α}
    (hsilent : program.Meets (.asking Access.IsSilent) post ()) :
    ∃ reads, (program.run port file).2 = file.advance reads := by
  suffices hmeets : program.Meets (.of port) (fun _ left ↦ ∃ reads, left = file.advance reads) file
    from (Program.meets_of_iff port program file).mp hmeets
  refine hsilent.preserves ?_ ⟨0, rfl⟩
  rintro request _ hrequest ⟨reads, rfl⟩
  cases request with
  | read offset =>
    show ∃ more, ((file.advance reads).read offset).2 = file.advance more
    rw [read]
    split
    · exact ⟨1 + reads, advance_advance ..⟩
    · split <;> exact ⟨reads, rfl⟩
  | write offset value => exact (hrequest offset value rfl).elim
  | delay microseconds => exact ⟨reads, rfl⟩
  | note entry => exact ⟨reads, rfl⟩

/-!
The window of the memory controller. Both index words carry the address of the register, and the
one of a write opens the window for it.
-/

theorem selected_write_index (word : UInt32) (register : Controller)
    (hword : word &&& controllerOffsetMask = register.offset &&& controllerOffsetMask) :
    (file.write controllerIndex.offset word).selected =
      register.offset &&& controllerOffsetMask := by
  rw [selected, value_write, if_pos rfl, hword]

/-- Selecting a register and storing its data is a list of two writes. -/
def controllerWrites (register : Controller) (value : UInt32) : List (Direct × UInt32) :=
  [(controllerIndex, register.writeIndex), (controllerData, value)]

theorem writeController_eq (register : Controller) (value : UInt32) :
    Hardware.writeController register value =
      Hardware.writeAll (controllerWrites register value) := rfl

theorem writeIndex_mask (register : Controller) :
    register.writeIndex &&& controllerOffsetMask = register.offset &&& controllerOffsetMask := by
  rw [Controller.writeIndex, or_and_distrib, UInt32.and_assoc, UInt32.and_self]
  exact UInt32.zero_or

theorem readIndex_mask (register : Controller) :
    register.readIndex &&& controllerOffsetMask = register.offset &&& controllerOffsetMask := by
  rw [Controller.readIndex, or_and_distrib, UInt32.and_assoc, UInt32.and_self]
  exact UInt32.zero_or

theorem isWritable_write_index (register : Controller) :
    (file.write controllerIndex.offset register.writeIndex).isWritable = true := by
  have hbit : register.writeIndex &&& 0x00800000 = 0x00800000 := by
    rw [Controller.writeIndex, or_and_distrib, UInt32.and_assoc,
      show controllerOffsetMask &&& (0x00800000 : UInt32) = 0 from rfl, UInt32.and_zero,
      UInt32.or_zero]
    rfl
  rw [isWritable, value_write, if_pos rfl, hbit]
  rfl

/-- A controller register that was written reads back. -/
theorem controllerValue_store_controllerWrites (register : Controller) (value : UInt32) :
    (file.store (controllerWrites register value)).controllerValue register = value := by
  show ((file.write controllerIndex.offset register.writeIndex).write
    controllerData.offset value).controllerValue register = value
  unfold controllerValue
  split
  · simp only [write, true_and]
    rw [if_pos]
    exact ⟨file.isWritable_write_index register,
      (file.selected_write_index _ register (writeIndex_mask register)).symm⟩
  · rw [value_write, if_pos rfl]

/-- Controller registers change through their data register only. -/
theorem controllerValue_write {offset : UInt32} (value : UInt32) (register : Controller)
    (hother : offset ≠ controllerData.offset) :
    (file.write offset value).controllerValue register = file.controllerValue register := by
  have hkept : (file.write offset value).value controllerData = file.value controllerData := by
    simp only [RegisterFile.value, write]
    exact if_neg (Ne.symm hother)
  simp only [controllerValue, hkept]
  simp [write, hother]

theorem controllerValue_store {writes : List (Direct × UInt32)} (register : Controller)
    (hother : ∀ entry ∈ writes, entry.1 ≠ controllerData) :
    (file.store writes).controllerValue register = file.controllerValue register := by
  induction writes generalizing file with
  | nil => rfl
  | cons head rest ih =>
    rw [List.forall_mem_cons] at hother
    show ((file.write head.1.offset head.2).store rest).controllerValue register = _
    rw [ih _ hother.2]
    refine file.controllerValue_write _ _ fun hoffset ↦ hother.1 ?_
    exact congrArg Direct.mk hoffset

theorem read_controllerData {register : Controller}
    (hselected : file.selected = register.offset &&& controllerOffsetMask) :
    file.read controllerData.offset = (file.controllerValue register, file) := by
  have hquiet : file.reports controllerData.offset = false := by
    rw [Bool.eq_false_iff]
    intro hreports
    rcases file.reports_region _ hreports with hregion | hregion <;> cases hregion
  simp only [read, hquiet, hselected, controllerValue, Bool.false_eq_true, if_false, and_true]
  split <;> rfl

theorem run_readController (register : Controller) :
    (Hardware.readController register).run port file =
      (file.controllerValue register,
        file.store [(controllerIndex, register.readIndex)]) := by
  have hselected := file.selected_write_index _ register (readIndex_mask register)
  have hkept := file.controllerValue_write register.readIndex register
    (show controllerIndex.offset ≠ controllerData.offset by decide)
  show (file.write controllerIndex.offset register.readIndex).read controllerData.offset = _
  rw [read_controllerData _ hselected, hkept]
  rfl

end RegisterFile

end Scanout
