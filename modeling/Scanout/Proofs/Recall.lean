import Scanout.Proofs.RegisterFile

/-!
A register that keeps what it is given, as seen in a trace. `recalled` is the value that the events
so far leave in the register, and the events remember it when each of them that reads the register
is answered with that value. Both are folds over the events, so a trace that remembers is made of
parts that do (`remembers_append`), each from the value that the parts before it have left.

The trace against a register file remembers every register that does not report
(`RegisterFile.remembers_trace`).
-/

set_option autoImplicit false
set_option relaxedAutoImplicit false

namespace Scanout

open Register

theorem latest_append (first second : List (Direct × UInt32)) (register : Direct) :
    latest (first ++ second) register = (latest second register).or (latest first register) := by
  induction first with
  | nil => simp [latest]
  | cons head rest ih => simp only [List.cons_append, latest, ih, Option.or_assoc]

/-- What some events leave in a register that held a value before. -/
def recalled (register : Direct) (value : UInt32) (events : List Event) : UInt32 :=
  (latest (events.filterMap Event.written) register).getD value

/-- Every read of the register is answered with what it was last given. -/
def Remembers (register : Direct) : UInt32 → List Event → Prop
  | _, [] => True
  | value, event :: rest =>
    (∀ answer, event.answered = some (register, answer) → answer = value) ∧
      Remembers register (recalled register value [event]) rest

section Recall

variable (register : Direct) (value : UInt32)

@[simp] theorem recalled_nil : recalled register value [] = value := rfl

theorem recalled_append (first second : List Event) :
    recalled register value (first ++ second) =
      recalled register (recalled register value first) second := by
  simp only [recalled, List.filterMap_append, latest_append]
  cases latest (second.filterMap Event.written) register <;> rfl

theorem recalled_cons (event : Event) (rest : List Event) :
    recalled register value (event :: rest) =
      recalled register (recalled register value [event]) rest :=
  recalled_append register value [event] rest

@[simp] theorem recalled_write_cons (written : Direct) (word : UInt32) (rest : List Event) :
    recalled register value (.write written word :: rest) =
      recalled register (if written = register then word else value) rest := by
  rw [recalled_cons]
  congr 1
  by_cases heq : written = register <;> simp [recalled, latest, heq]

@[simp] theorem recalled_read_cons (answering : Direct) (answer : UInt32) (rest : List Event) :
    recalled register value (.read answering answer :: rest) = recalled register value rest :=
  recalled_cons register value _ rest

/-- Events that do not write the register leave it. -/
theorem recalled_of_unwritten {events : List Event}
    (hother : ∀ event ∈ events, ∀ word, event.written ≠ some (register, word)) :
    recalled register value events = value := by
  rw [recalled, latest_eq_none]
  · rfl
  · rintro ⟨written, word⟩ hentry rfl
    obtain ⟨event, hevent, hwritten⟩ := List.mem_filterMap.mp hentry
    exact hother event hevent word hwritten

@[simp] theorem remembers_nil : Remembers register value [] := trivial

theorem remembers_append (first second : List Event) :
    Remembers register value (first ++ second) ↔
      Remembers register value first ∧
        Remembers register (recalled register value first) second := by
  induction first generalizing value with
  | nil => simp
  | cons event rest ih =>
    rw [List.cons_append, Remembers, Remembers, ih, recalled_cons register value event rest,
      and_assoc]

@[simp] theorem remembers_write_cons (written : Direct) (word : UInt32) (rest : List Event) :
    Remembers register value (.write written word :: rest) ↔
      Remembers register (if written = register then word else value) rest := by
  rw [Remembers, recalled_write_cons]
  simp

@[simp] theorem remembers_read_cons (answering : Direct) (answer : UInt32) (rest : List Event) :
    Remembers register value (.read answering answer :: rest) ↔
      (answering = register → answer = value) ∧ Remembers register value rest := by
  rw [Remembers, recalled_read_cons]
  simp only [Event.answered_read, Option.some.injEq, Prod.mk.injEq, recalled_nil]
  refine and_congr_left fun _ ↦ ⟨fun hanswer heq ↦ hanswer answer ⟨heq, rfl⟩, ?_⟩
  rintro hanswer _ ⟨heq, rfl⟩
  exact hanswer heq

end Recall

/-- Every write is of a kind, given what its register was last given before it. -/
def WritesOver (kind : Direct → UInt32 → UInt32 → Prop) : (Direct → UInt32) → List Event → Prop
  | _, [] => True
  | held, event :: rest =>
    (∀ register word, event.written = some (register, word) → kind register (held register) word) ∧
      WritesOver kind (fun register ↦ recalled register (held register) [event]) rest

namespace WritesOver

variable {kind : Direct → UInt32 → UInt32 → Prop}

theorem append {held : Direct → UInt32} {early late : List Event}
    (hearly : WritesOver kind held early)
    (hlate : WritesOver kind (fun register ↦ recalled register (held register) early) late) :
    WritesOver kind held (early ++ late) := by
  induction early generalizing held with
  | nil => exact hlate
  | cons event rest ih =>
    refine ⟨hearly.1, ih hearly.2 ?_⟩
    simpa only [← recalled_cons] using hlate

/-- Events that write nothing are of any kind. -/
theorem of_silent {events : List Event} (hevents : ∀ event ∈ events, event.written = none)
    (held : Direct → UInt32) : WritesOver kind held events := by
  induction events generalizing held with
  | nil => trivial
  | cons event rest ih =>
    rw [List.forall_mem_cons] at hevents
    refine ⟨fun register word hwritten ↦ ?_, ih hevents.2 _⟩
    rw [hevents.1] at hwritten
    cases hwritten

/-- An update of a register that remembers is of the kind if the value is that is worked out. -/
theorem update {register : Direct} {clear set old : UInt32} {held : Direct → UInt32}
    (hknown : Remembers register (held register) (Event.update register clear set old))
    (hkind : kind register (held register) ((held register &&& ~~~clear) ||| set)) :
    WritesOver kind held (Event.update register clear set old) := by
  obtain rfl : old = held register := (remembers_read_cons ..).mp hknown |>.1 rfl
  refine ⟨by simp, fun written word hwritten ↦ ?_, trivial⟩
  cases hwritten
  exact hkind

end WritesOver

namespace RegisterFile

/-- A register that does not report answers what it holds, and holds what it was last given. -/
theorem remembers_trace (file : RegisterFile) {register : Direct}
    (hquiet : file.reports register.offset = false) (hdata : register ≠ controllerData) {α : Type}
    (program : Hardware α) :
    Remembers register (file.value register) (program.trace port file) ∧
      recalled register (file.value register) (program.trace port file) =
        (program.run port file).2.value register := by
  induction program generalizing file with
  | done value => exact ⟨trivial, rfl⟩
  | ask request next ih =>
    rw [Program.trace_ask, Program.run_ask]
    cases request with
    | read offset =>
      have hkept : (file.read offset).2.value register = file.value register ∧
          (file.read offset).2.reports = file.reports := by
        rw [read]
        split
        · exact ⟨rfl, rfl⟩
        · split <;> exact ⟨rfl, rfl⟩
      have hnext := ih (file.read offset).1 (file.read offset).2 (by rw [hkept.2]; exact hquiet)
      rw [hkept.1] at hnext
      have hanswer : Direct.mk offset = register → (file.read offset).1 = file.value register := by
        rintro rfl
        have hwindow : offset ≠ controllerData.offset := fun heq ↦ hdata (congrArg Direct.mk heq)
        simp [read, hquiet, hwindow, RegisterFile.value]
      exact ⟨(remembers_read_cons ..).mpr ⟨hanswer, hnext.1⟩,
        (recalled_read_cons ..).trans hnext.2⟩
    | write offset word =>
      have hnext := ih () (file.write offset word) hquiet
      rw [file.value_write ⟨offset⟩ register word] at hnext
      exact ⟨(remembers_write_cons ..).mpr hnext.1, (recalled_write_cons ..).trans hnext.2⟩
    | delay microseconds | note entry =>
      exact ⟨⟨by rintro _ ⟨⟩, (ih () file hquiet).1⟩, (ih () file hquiet).2⟩

end RegisterFile

end Scanout
