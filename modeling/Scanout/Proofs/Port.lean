import Scanout.Proofs.RegisterFile

/-!
The register port as two memories. Mapped registers are reached directly; the registers of the
memory controller are reached through its window, which takes two accesses to a pair of mapped
registers for each. A `Slot` is a place of either kind, and slots of different kinds are different
places whatever their addresses.

The device is a `RegisterFile` whose window reaches the controller's own space and whose other
registers are plain memory (`Memory`). On such a device a call answers and changes its own slot as
if that were a cell of its own (`run_program`), so in any sequence of calls a slot holds what was
last stored in it (`session_disjoint`). What makes it so is in the index words: they carry no bit of
an offset past the sixteenth, and only a write enables writing.
-/

set_option autoImplicit false
set_option relaxedAutoImplicit false

namespace Scanout

open Register

namespace Port

/-- A mapped register that is not part of the window. -/
structure Plain where
  register : Direct
  index_ne : register ≠ controllerIndex
  data_ne : register ≠ controllerData
  deriving DecidableEq

/-- One call of the port, on a mapped register or on one behind the window. -/
inductive Call where
  | read (plain : Plain)
  | write (plain : Plain) (value : UInt32)
  | modify (plain : Plain) (clear set : UInt32)
  | readController (register : Controller)
  | writeController (register : Controller) (value : UInt32)

/-- The program of a call, with what it returns. -/
def Call.program : Call → Hardware (Option UInt32)
  | read plain => do return some (← Hardware.read plain.register)
  | write plain value => do
    Hardware.write plain.register value
    return none
  | modify plain clear set => do return some (← Hardware.modify plain.register clear set)
  | readController register => do return some (← Hardware.readController register)
  | writeController register value => do
    Hardware.writeController register value
    return none

/-- Some calls in turn, with their answers. -/
def session : List Call → Hardware (List (Option UInt32))
  | [] => return []
  | call :: rest => do
    let answer ← call.program
    let answers ← session rest
    return answer :: answers

/-- A place that holds a value: a mapped register, or an address behind the window. -/
inductive Slot where
  | mapped (plain : Plain)
  | behind (address : UInt16)
  deriving DecidableEq

namespace Call

/-- The place that a call is about. Of a controller register's offset sixteen bits count. -/
def slot : Call → Slot
  | read plain | write plain _ | modify plain _ _ => .mapped plain
  | readController register | writeController register _ => .behind register.offset.toUInt16

/-- What a call answers if its slot holds a value. -/
def reply (held : UInt32) : Call → Option UInt32
  | read _ | readController _ => some held
  | modify _ clear set => some ((held &&& ~~~clear) ||| set)
  | write _ _ | writeController _ _ => none

/-- The value that a call stored, given its answer. -/
def stored (answer : Option UInt32) : Call → Option UInt32
  | read _ | readController _ => none
  | modify _ _ _ => answer
  | write _ value | writeController _ value => some value

/-- What a call's slot holds after it. -/
def leaves (held : UInt32) (call : Call) : UInt32 :=
  (call.stored (call.reply held)).getD held

/-- The address that a call selects in the window, and whether it enables writing. -/
def selects : Call → Option (UInt16 × Bool)
  | readController register => some (register.offset.toUInt16, false)
  | writeController register _ => some (register.offset.toUInt16, true)
  | read _ | write _ _ | modify _ _ _ => none

end Call

/-- What was last stored in a slot by some calls, with their answers. -/
def lastStored (slot : Slot) : List (Call × Option UInt32) → Option UInt32
  | [] => none
  | (call, answer) :: rest =>
    (lastStored slot rest).or (if call.slot = slot then call.stored answer else none)

/-- The words that are written to the index register. -/
def indexWords (events : List Event) : List UInt32 :=
  (events.filterMap Event.written).filterMap fun entry ↦
    if entry.1 = controllerIndex then some entry.2 else none

/-- The address in an index word, and whether it enables writing. -/
def decodeIndex (word : UInt32) : UInt16 × Bool :=
  (word.toUInt16, word &&& 0x00800000 != 0)

end Port

/-- The sixteen bits of an offset that an index word carries. -/
theorem offset_and_mask (offset : UInt32) :
    offset &&& controllerOffsetMask = offset.toUInt16.toUInt32 := by
  apply UInt32.toNat_inj.mp
  rw [UInt32.toNat_and, UInt16.toNat_toUInt32, UInt32.toNat_toUInt16]
  exact Nat.and_two_pow_sub_one_eq_mod offset.toNat 16

namespace RegisterFile

open Port

/-- The window reaches the controller's space, and every other register is memory. -/
structure Memory (file : RegisterFile) : Prop where
  windowed : file.windowed = true
  quiet : ∀ offset, file.reports offset = false

/-- What a slot holds. -/
def held (file : RegisterFile) : Slot → UInt32
  | .mapped plain => file.value plain.register
  | .behind address => file.hidden address.toUInt32

section Accesses

variable (file : RegisterFile)

theorem held_write_plain (plain : Plain) (value : UInt32) (slot : Slot) :
    (file.write plain.register.offset value).held slot =
      if slot = .mapped plain then value else file.held slot := by
  cases slot with
  | mapped other =>
    have hsame : plain.register = other.register ↔ Slot.mapped other = .mapped plain := by
      obtain ⟨plain, _, _⟩ := plain
      obtain ⟨other, _, _⟩ := other
      simp only [Slot.mapped.injEq, Plain.mk.injEq, eq_comm]
    simp only [held, value_write, hsame]
  | behind address =>
    have hdata : plain.register.offset ≠ controllerData.offset :=
      fun heq ↦ plain.data_ne (congrArg Direct.mk heq)
    rw [if_neg Slot.noConfusion, held, held, RegisterFile.write]
    exact if_neg fun hwritten ↦ hdata hwritten.1

/-- Moving the window changes no slot. -/
theorem held_write_index (word : UInt32) (slot : Slot) :
    (file.write controllerIndex.offset word).held slot = file.held slot := by
  cases slot with
  | mapped plain => rw [held, held, value_write, if_neg plain.index_ne.symm]
  | behind address => rfl

/-- Writing through an open window changes the slot that it is at. -/
theorem held_write_data {address : UInt16} (hopen : file.isWritable = true)
    (hselected : file.selected = address.toUInt32) (value : UInt32) (slot : Slot) :
    (file.write controllerData.offset value).held slot =
      if slot = .behind address then value else file.held slot := by
  cases slot with
  | mapped plain =>
    rw [if_neg Slot.noConfusion, held, held, value_write, if_neg plain.data_ne.symm]
  | behind other =>
    rw [held, held, RegisterFile.write, hopen, hselected]
    simp [UInt16.toUInt32_inj]

variable {file}

theorem Memory.write (hmemory : file.Memory) (offset value : UInt32) :
    (file.write offset value).Memory :=
  ⟨hmemory.windowed, hmemory.quiet⟩

theorem Memory.read_plain (hmemory : file.Memory) (plain : Plain) :
    file.read plain.register.offset = (file.held (.mapped plain), file) := by
  have hdata : plain.register.offset ≠ controllerData.offset :=
    fun heq ↦ plain.data_ne (congrArg Direct.mk heq)
  rw [RegisterFile.read, hmemory.quiet, if_neg Bool.false_ne_true, if_neg fun hread ↦ hdata hread.2]
  rfl

theorem Memory.controllerValue (hmemory : file.Memory) (register : Controller) :
    file.controllerValue register = file.held (.behind register.offset.toUInt16) := by
  rw [RegisterFile.controllerValue, if_pos hmemory.windowed, offset_and_mask, held]

end Accesses

end RegisterFile

namespace Port

/-- A call answers from its own slot, and changes that slot only. -/
theorem run_program {file : RegisterFile} (hmemory : file.Memory) (call : Call) :
    ∃ left, call.program.run RegisterFile.port file =
        (call.reply (file.held call.slot), left) ∧ left.Memory ∧
      ∀ slot, left.held slot =
        if slot = call.slot then call.leaves (file.held call.slot) else file.held slot := by
  have hkept : ∀ own slot,
      file.held slot = if slot = own then file.held own else file.held slot := by
    intro own slot
    split
    · rename_i heq
      rw [heq]
    · rfl
  cases call with
  | read plain =>
    refine ⟨file, ?_, hmemory, hkept _⟩
    show (some (file.read plain.register.offset).1, (file.read plain.register.offset).2) = _
    rw [hmemory.read_plain]
    rfl
  | write plain value =>
    exact ⟨file.write plain.register.offset value, rfl, hmemory.write _ _,
      file.held_write_plain plain value⟩
  | modify plain clear set =>
    refine ⟨file.write plain.register.offset
      ((file.held (.mapped plain) &&& ~~~clear) ||| set), ?_, hmemory.write _ _,
      file.held_write_plain plain _⟩
    show (some (((file.read plain.register.offset).1 &&& ~~~clear) ||| set),
      (file.read plain.register.offset).2.write plain.register.offset
        (((file.read plain.register.offset).1 &&& ~~~clear) ||| set)) = _
    rw [hmemory.read_plain]
    rfl
  | readController register =>
    refine ⟨file.write controllerIndex.offset register.readIndex, ?_, hmemory.write _ _,
      fun slot ↦ (file.held_write_index _ slot).trans (hkept _ slot)⟩
    show ((Hardware.readController register).bind fun value ↦ .done (some value)).run _ file = _
    rw [Program.run_bind, file.run_readController, hmemory.controllerValue]
    rfl
  | writeController register value =>
    let opened := file.write controllerIndex.offset register.writeIndex
    have hselected : opened.selected = register.offset.toUInt16.toUInt32 := by
      rw [← offset_and_mask]
      exact file.selected_write_index _ register (RegisterFile.writeIndex_mask register)
    refine ⟨opened.write controllerData.offset value, rfl, (hmemory.write _ _).write _ _,
      fun slot ↦ ?_⟩
    rw [opened.held_write_data (file.isWritable_write_index register) hselected,
      file.held_write_index]
    rfl

/-- Every answer is what the call's slot was last given before it, or what it held at first. -/
def Recalls (initial : Slot → UInt32) (history : List (Call × Option UInt32)) : Prop :=
  ∀ before call answer after, history = before ++ (call, answer) :: after →
    answer = call.reply ((lastStored call.slot before).getD (initial call.slot))

/-- What a slot was last given, reckoned from the first call or from what that leaves. -/
theorem lastStored_cons {initial changed : Slot → UInt32} {call : Call}
    (hchanged : ∀ slot, changed slot =
      if slot = call.slot then call.leaves (initial call.slot) else initial slot)
    (slot : Slot) (rest : List (Call × Option UInt32)) :
    (lastStored slot ((call, call.reply (initial call.slot)) :: rest)).getD (initial slot) =
      (lastStored slot rest).getD (changed slot) := by
  rw [lastStored]
  cases lastStored slot rest with
  | some value => rfl
  | none =>
    rw [Option.none_or, Option.getD_none, hchanged]
    by_cases hslot : slot = call.slot
    · rw [if_pos hslot.symm, if_pos hslot, hslot, Call.leaves]
    · rw [if_neg (Ne.symm hslot), if_neg hslot, Option.getD_none]

/-- Calls about other slots store nothing in a slot. -/
theorem lastStored_eq_none {slot : Slot} {history : List (Call × Option UInt32)}
    (hother : ∀ entry ∈ history, entry.1.slot ≠ slot) : lastStored slot history = none := by
  induction history with
  | nil => rfl
  | cons entry rest ih =>
    rw [List.forall_mem_cons] at hother
    rw [lastStored, ih hother.2, if_neg hother.1]
    rfl

theorem Recalls.cons {initial changed : Slot → UInt32} {call : Call}
    (hchanged : ∀ slot, changed slot =
      if slot = call.slot then call.leaves (initial call.slot) else initial slot)
    {rest : List (Call × Option UInt32)} (hrest : Recalls changed rest) :
    Recalls initial ((call, call.reply (initial call.slot)) :: rest) := by
  intro before later answer after hsplit
  cases before with
  | nil =>
    cases hsplit
    rfl
  | cons first middle =>
    rw [List.cons_append, List.cons.injEq] at hsplit
    obtain ⟨rfl, hsplit⟩ := hsplit
    rw [lastStored_cons hchanged]
    exact hrest middle later answer after hsplit

theorem run_session_cons (call : Call) (rest : List Call) (file : RegisterFile) :
    (session (call :: rest)).run RegisterFile.port file =
      let first := call.program.run RegisterFile.port file
      let others := (session rest).run RegisterFile.port first.2
      (first.1 :: others.1, others.2) := by
  rw [session, Program.bind_eq, Program.run_bind, Program.bind_eq, Program.run_bind]
  rfl

/-- On a device that is a memory, so is every slot in any sequence of calls. -/
theorem run_session {file : RegisterFile} (hmemory : file.Memory) (calls : List Call) :
    ∃ answers left, (session calls).run RegisterFile.port file = (answers, left) ∧
      answers.length = calls.length ∧ Recalls file.held (calls.zip answers) ∧
        ∀ slot, left.held slot =
          (lastStored slot (calls.zip answers)).getD (file.held slot) := by
  induction calls generalizing file with
  | nil =>
    refine ⟨[], file, rfl, rfl, fun before call answer after hsplit ↦ ?_, fun slot ↦ rfl⟩
    cases before <;> cases hsplit
  | cons call rest ih =>
    obtain ⟨middle, hfirst, hmiddle, hchanged⟩ := run_program hmemory call
    obtain ⟨answers, left, hothers, hlength, hrecalls, hleft⟩ := ih hmiddle
    refine ⟨call.reply (file.held call.slot) :: answers, left, ?_, congrArg (· + 1) hlength,
      hrecalls.cons hchanged, fun slot ↦ ?_⟩
    · rw [run_session_cons, hfirst]
      dsimp only
      rw [hothers]
    · rw [hleft, List.zip_cons_cons, lastStored_cons hchanged]

/-!
The index words. Whoever answers at the other side, a call on the window writes one of them, with
the sixteen bits of its register's offset, and enables writing only to write.
-/

theorem decodeIndex_eq {word : UInt32} {register : Controller}
    (hword : word &&& controllerOffsetMask = register.offset &&& controllerOffsetMask) :
    decodeIndex word = (register.offset.toUInt16, word &&& 0x00800000 != 0) := by
  rw [offset_and_mask, offset_and_mask, UInt16.toUInt32_inj] at hword
  rw [decodeIndex, hword]

/-- No bit of an offset reaches the selector bits. -/
theorem select_and_enable (select : UInt32) (register : Controller) :
    (select ||| (register.offset &&& controllerOffsetMask)) &&& 0x00800000 =
      select &&& 0x00800000 := by
  rw [or_and_distrib, UInt32.and_assoc,
    show controllerOffsetMask &&& (0x00800000 : UInt32) = 0 from rfl, UInt32.and_zero,
    UInt32.or_zero]

theorem decodeIndex_readIndex (register : Controller) :
    decodeIndex register.readIndex = (register.offset.toUInt16, false) := by
  rw [decodeIndex_eq (RegisterFile.readIndex_mask register), Controller.readIndex,
    select_and_enable]
  rfl

theorem decodeIndex_writeIndex (register : Controller) :
    decodeIndex register.writeIndex = (register.offset.toUInt16, true) := by
  rw [decodeIndex_eq (RegisterFile.writeIndex_mask register), Controller.writeIndex,
    select_and_enable]
  rfl

theorem indexWords_append (first second : List Event) :
    indexWords (first ++ second) = indexWords first ++ indexWords second := by
  rw [indexWords, List.filterMap_append, List.filterMap_append]
  rfl

section Trace

variable {σ : Type} (handler : Handler Access.signature σ)

theorem indexWords_program (call : Call) (state : σ) :
    (indexWords (call.program.trace handler state)).map decodeIndex = call.selects.toList := by
  cases call with
  | read plain => rfl
  | write plain value =>
    show (indexWords [Event.write plain.register value]).map decodeIndex = []
    simp [indexWords, plain.index_ne]
  | modify plain clear set =>
    show (indexWords [Event.read plain.register _, Event.write plain.register _]).map decodeIndex =
      []
    simp [indexWords, plain.index_ne]
  | readController register =>
    show [decodeIndex register.readIndex] = _
    rw [decodeIndex_readIndex]
    rfl
  | writeController register value =>
    show [decodeIndex register.writeIndex] = _
    rw [decodeIndex_writeIndex]
    rfl

theorem indexWords_session (calls : List Call) (state : σ) :
    (indexWords ((session calls).trace handler state)).map decodeIndex =
      calls.filterMap Call.selects := by
  induction calls generalizing state with
  | nil => rfl
  | cons call rest ih =>
    rw [session, Program.bind_eq, Program.trace_bind, Program.bind_eq, Program.trace_bind,
      Program.pure_eq, Program.trace_done, List.append_nil, indexWords_append, List.map_append,
      indexWords_program, ih, List.filterMap_cons]
    cases call.selects <;> rfl

end Trace

/-- On a device that is a memory beside and behind its window, every call in a sequence answers what
its slot was last given, and every slot ends with what it was last given; a slot that no call is
about stays as it was. Every index word carries the address of its call, and enables writing only
for a write. -/
theorem session_disjoint {file : RegisterFile} (hmemory : file.Memory) (calls : List Call) :
    ∃ answers left, (session calls).run RegisterFile.port file = (answers, left) ∧
      answers.length = calls.length ∧ Recalls file.held (calls.zip answers) ∧
      (∀ slot, left.held slot = (lastStored slot (calls.zip answers)).getD (file.held slot)) ∧
      (∀ slot, (∀ call ∈ calls, call.slot ≠ slot) → left.held slot = file.held slot) ∧
      (indexWords ((session calls).trace RegisterFile.port file)).map decodeIndex =
        calls.filterMap Call.selects := by
  obtain ⟨answers, left, hrun, hlength, hrecalls, hleft⟩ := run_session hmemory calls
  refine ⟨answers, left, hrun, hlength, hrecalls, hleft, fun slot hother ↦ ?_,
    indexWords_session _ calls file⟩
  rw [hleft, lastStored_eq_none fun entry hentry ↦ hother entry.1 (List.of_mem_zip hentry).1]
  rfl

/-- A mapped register and an address behind the window that is the same number, each written and
read. The window is asked with two offsets that agree in sixteen bits. -/
def crossed : List Call :=
  let plain : Plain := ⟨⟨0x6080⟩, by decide, by decide⟩
  [.write plain 7, .writeController ⟨0xFFFF6080⟩ 5, .modify plain 1 8,
    .readController ⟨0x00006080⟩, .read plain]

/-- A device that is a memory, all of it clear. -/
def blank : RegisterFile :=
  { RegisterFile.cleared with reports := fun _ ↦ false, reports_region := nofun }

theorem session_disjoint_crossed :
    blank.Memory ∧ ∃ answers left,
      (session crossed).run RegisterFile.port blank = (answers, left) ∧
        answers = [none, none, some 14, some 5, some 14] ∧
        Recalls blank.held (crossed.zip answers) ∧
        (∀ slot, left.held slot =
          (lastStored slot (crossed.zip answers)).getD (blank.held slot)) ∧
        (∀ slot, (∀ call ∈ crossed, call.slot ≠ slot) → left.held slot = blank.held slot) ∧
        (indexWords ((session crossed).trace RegisterFile.port blank)).map decodeIndex =
          [(0x6080, true), (0x6080, false)] := by
  have hmemory : blank.Memory := ⟨rfl, fun _ ↦ rfl⟩
  obtain ⟨answers, left, hrun, -, hrecalls, hleft, hother, hwords⟩ :=
    session_disjoint hmemory crossed
  refine ⟨hmemory, answers, left, hrun, ?_, hrecalls, hleft, hother, hwords⟩
  have hanswers : answers = ((session crossed).run RegisterFile.port blank).1 := by rw [hrun]
  rw [hanswers]
  decide

end Port

end Scanout
