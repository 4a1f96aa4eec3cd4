import Scanout.Edid
import Scanout.Proofs.I2c.Ends
import Scanout.Proofs.I2c.Phase

/-!
The line-by-line master gives the bus back. Whatever the lines answer, a transaction ends in a stop
that leaves both lines released (`gives_back`), and how it failed can be told from what stands
before the stop: a byte and the slot in which nobody answered to it, or a clock that stayed low.
-/

set_option autoImplicit false
set_option relaxedAutoImplicit false

namespace Scanout.I2c.BitBang

variable {α : Type} {config : Config.BitBang} {refusal : Refusal}

/-- The bytes that are sent to a slave for a phase. -/
def sent (address : Address) : Phase → List UInt8
  | .write bytes => selection address .write ++ bytes
  | .read _ => selection address .read

/-- A byte may go unanswered that is sent for an operation, with those before it complete. -/
def Refusal.within (operations : List (Address × Phase)) : Refusal :=
  fun number byte taken ↦ ∃ before operation after, operations = before ++ operation :: after ∧
    number = operation.1.number ∧ byte ∈ sent operation.1 operation.2 ∧
      taken = Phase.asked (before.map Prod.snd)

theorem Refusal.within_head {address : Address} {phase : Phase} {bytes : List UInt8}
    {rest : List (Address × Phase)} (hbytes : bytes ⊆ sent address phase) :
    ∀ number byte taken, among address bytes number byte taken →
      within ((address, phase) :: rest) number byte taken :=
  fun _ _ _ hamong ↦ ⟨[], (address, phase), rest, rfl, hamong.1, hbytes hamong.2.1, hamong.2.2⟩

theorem Refusal.within_tail (operation : Address × Phase) {rest : List (Address × Phase)} :
    ∀ number byte more, within rest number byte more →
      within (operation :: rest) number byte (Phase.asked [operation.2] + more) := by
  rintro _ byte _ ⟨before, refused, after, rfl, rfl, hbyte, rfl⟩
  exact ⟨operation :: before, refused, after, rfl, rfl, hbyte, (Phase.asked_cons _ _).symm⟩

/-- Where the direction changes, the slave is selected before what follows. -/
theorem turn_reads {address : Address} {previous : Option Direction} {direction : Direction}
    {rest : Exchange α} {count : Nat}
    (hselection : ∀ number byte taken,
      Refusal.among address (selection address direction) number byte taken →
        refusal number byte taken)
    (hrest : Reads config Low refusal count rest) :
    Reads config (fun master ↦ previous ≠ none → Low master) refusal count
      (if previous ≠ some direction then do
        select config address direction
        rest
      else rest) := by
  by_cases hsame : previous = some direction
  · rw [if_neg (not_not_intro hsame)]
    exact hrest.narrow fun _ hlow ↦ hlow (by simp [hsame])
  · rw [if_pos hsame]
    refine .after (.narrow ?_ fun _ _ ↦ trivial) fun _ ↦ hrest
    exact (select_reads address direction).widen hselection

/-- The induction is on the phases: each leaves the clock low for the next one, and only the first
one needs no bus that is held already. -/
theorem runPhases_reads (address : Address) (phases : List Phase) (previous : Option Direction)
    (hphases : phases = [] → previous ≠ none) :
    Reads config (fun master ↦ previous ≠ none → Low master) (.within (phases.map (address, ·)))
      (Phase.asked phases) (runPhases config address phases previous) := by
  induction phases generalizing previous with
  | nil => exact (Reads.pure ()).narrow fun _ hlow ↦ hlow (hphases rfl)
  | cons phase rest ih =>
    have hrest (direction : Direction) : Reads config Low
        (fun number byte more ↦ Refusal.within ((phase :: rest).map (address, ·)) number byte
          (Phase.asked [phase] + more))
        (Phase.asked rest) (runPhases config address rest (some direction)) :=
      ((ih (some direction) fun _ ↦ Option.some_ne_none _).narrow fun _ hlow _ ↦ hlow).widen
        (Refusal.within_tail _)
    rw [Phase.asked_cons]
    cases phase with
    | write bytes =>
      refine turn_reads (Refusal.within_head (List.subset_append_left _ _)) ?_
      refine .bind ((sendAll_reads address bytes).widen (Refusal.within_head ?_)) fun _ ↦
        hrest .write
      exact List.subset_append_right _ _
    | read count =>
      refine turn_reads (Refusal.within_head fun _ ↦ id) ?_
      exact .bind (receive_reads count _) fun _ ↦ hrest .read

/-- The operations of a read behind a pointer. -/
def operationsBehind (pointer : Address) (byte : UInt8) (address : Address) (offset : UInt8)
    (count : Nat) : List (Address × Phase) :=
  [(pointer, .write [byte]), (address, .write [offset]), (address, .read count)]

theorem behind_reads (pointer : Address) (byte : UInt8) (address : Address) (offset : UInt8)
    (count : Nat) :
    Reads config Anyhow (.within (operationsBehind pointer byte address offset count)) count (do
      select config pointer .write
      send config pointer byte
      runPhases config address [.write [offset], .read count] none) := by
  refine .after ((select_reads pointer .write).widen (Refusal.within_head ?_)) fun _ ↦
    .after ((send_reads pointer byte).widen (Refusal.within_head ?_)) fun _ ↦ ?_
  · exact List.subset_append_left _ _
  · exact List.subset_append_right _ _
  · refine .widen ((runPhases_reads address _ none (by simp)).narrow fun _ _ hnone ↦
      absurd rfl hnone) ?_
    intro number refused more hwithin
    rw [← Nat.zero_add more]
    exact Refusal.within_tail (pointer, .write [byte]) _ _ _ hwithin

theorem plays_closed {exchange : Exchange Unit} {master : Master} {signals : List Signal}
    {result : Except Error Unit} {left : Master}
    (hplays : ((closed config exchange).run.run master).Plays signals (result, left)) :
    ∃ course middle closing, (exchange.run.run master).Plays course (result, middle) ∧
      signals = course ++ closing ∧ Stops config middle.levels.clock closing ∧
        left = { middle with levels := .released } := by
  simp only [closed, ExceptT.run_mk, plays_step_bind, plays_step_pure, Prod.mk.injEq] at hplays
  obtain ⟨course, _, _, middle, rfl, hcourse, closing, _, _, _, rfl, hstop, rfl, rfl, rfl⟩ := hplays
  obtain ⟨hstops, hleft⟩ := plays_stop hstop
  exact ⟨course, middle, closing, hcourse, by rw [List.append_nil], hstops, hleft⟩

/-- How a transaction failed, from what stands before its stop. Either a slave kept the clock low
for as long as is waited for, and the clock is not pulled low again; or nobody answered to the last
byte, and nothing has arrived for its operation and those behind it. -/
inductive Fails (config : Config.BitBang) (operations : List (Address × Phase))
    (received : List UInt8) (closing : List Signal) : Error → List Signal → Prop
  | stretched (early : List Signal) {late : List Signal} {data : Bool}
      (hlate : Stretched config data late)
      (hreleased : ∀ levels ∈ drives closing, levels.clock = true) :
      Fails config operations received closing .clockStretch (early ++ late)
  | refused (early : List Signal) {clocked slot : List Signal}
      {before after : List (Address × Phase)} {operation : Address × Phase} {byte : UInt8}
      (hoperations : operations = before ++ operation :: after)
      (hbyte : byte ∈ sent operation.1 operation.2)
      (hclocked : ClockedAll config (bits byte) clocked) (hslot : Unanswered config slot)
      (hreceived : received.length = Phase.asked (before.map Prod.snd))
      (huntouched : Phase.buffers (operations.map Prod.snd) received =
        Phase.buffers (before.map Prod.snd) received ++
          Phase.buffers ((operation :: after).map Prod.snd) []) :
      Fails config operations received closing (.nack operation.1.number)
        (early ++ (clocked ++ slot))

/-- The transaction ends in a stop with both lines released, and a failure shows before it. -/
def GivesBack (config : Config.BitBang) (operations : List (Address × Phase))
    (signals : List Signal) (result : Except Error Unit) (left : Master) : Prop :=
  left.levels = .released ∧
    (∃ early, drives signals = early ++ [⟨true, false⟩, ⟨true, true⟩]) ∧
    ∃ course clock closing, signals = course ++ closing ∧ Stops config clock closing ∧
      ∀ cause, result = .error cause →
        Fails config operations left.received closing cause course

variable {operations : List (Address × Phase)}

theorem Ends.fails {goal : Unit → Nat → List Signal → Prop} {course closing : List Signal}
    {cause : Error} {left : Master}
    (hends : Ends config (.within operations) goal 0 course (.error cause) left)
    (hstops : Stops config left.levels.clock closing) :
    Fails config operations left.received closing cause course := by
  cases hends with
  | stretched early hlate hraised =>
    refine .stretched early hlate ?_
    rw [hstops.drives_eq, hraised]
    simp [Levels.released]
  | refused early hrefusal hclocked hslot hreceived =>
    obtain ⟨before, operation, after, rfl, rfl, hbyte, rfl⟩ := hrefusal
    rw [Nat.zero_add] at hreceived
    refine .refused early rfl hbyte hclocked hslot hreceived ?_
    rw [List.map_append, Phase.buffers_append, ← hreceived, List.drop_length]

theorem GivesBack.closed {exchange : Exchange Unit} {signals : List Signal}
    {result : Except Error Unit} {left : Master}
    (hends : ∀ {course cause middle}, (exchange.run.run {}).Plays course (.error cause, middle) →
      ∃ goal : Unit → Nat → List Signal → Prop,
        Ends config (.within operations) goal 0 course (.error cause) middle)
    (hplays : (perform (closed config exchange)).Plays signals (result, left)) :
    GivesBack config operations signals result left := by
  obtain ⟨course, middle, closing, hcourse, rfl, hstops, rfl⟩ := plays_closed hplays
  refine ⟨rfl, ⟨drives course ++ [⟨middle.levels.clock, false⟩], ?_⟩, course, _, closing, rfl,
    hstops, ?_⟩
  · rw [drives_append, hstops.drives_eq, List.append_assoc]
    rfl
  · rintro cause rfl
    obtain ⟨goal, hends⟩ := hends hcourse
    exact hends.fails hstops

theorem transfer_givesBack {address : Address} {phases : List Phase} {signals : List Signal}
    {result : Except Error Unit} {left : Master}
    (hplays : (perform (transfer config address phases)).Plays signals (result, left)) :
    GivesBack config (phases.map (address, ·)) signals result left := by
  refine .closed ?_ hplays
  intro course cause middle hcourse
  cases phases with
  | nil =>
    obtain ⟨-, heq, -⟩ := (plays_exchange_pure _ _ _).mp hcourse
    cases heq
  | cons phase rest =>
    exact ⟨_, runPhases_reads address (phase :: rest) none (by simp) {} course _ middle
      (absurd rfl) hcourse⟩

theorem readBehind_givesBack {pointer address : Address} {byte offset : UInt8} {count : Nat}
    {signals : List Signal} {result : Except Error Unit} {left : Master}
    (hplays : (perform (readBehind config pointer byte address offset count)).Plays signals
      (result, left)) :
    GivesBack config (operationsBehind pointer byte address offset count) signals result left :=
  .closed (fun hcourse ↦ ⟨_, behind_reads pointer byte address offset count {} _ _ _ trivial
    hcourse⟩) hplays

/-- Whatever the lines answer, and however it ends, a transaction gives the bus back: its last two
settings of the lines pull only the data line low, and release it. A failure is a byte of one of its
operations that went unanswered right before the stop, with nothing read for that operation and
those behind it, or a clock that was released and stayed low. -/
theorem gives_back (config : Config.BitBang) {σ : Type} (handler : Handler WireAccess.signature σ)
    (state : σ) :
    (∀ (address : Address) (phases : List Phase),
      let program := perform (transfer config address phases)
      let (result, left) := (program.run handler state).1
      GivesBack config (phases.map (address, ·)) (program.trace handler state) result left) ∧
    ∀ (segment offset : UInt8) (count : Nat),
      let program := perform (Edid.Segment.ofBitBang config segment offset count)
      let (result, left) := (program.run handler state).1
      GivesBack config
        (operationsBehind (.seven Edid.segmentAddress) segment (.seven Edid.memoryAddress) offset
          count)
        (program.trace handler state) result left :=
  ⟨fun _ _ ↦ transfer_givesBack (Program.plays_trace handler _ state),
    fun _ _ _ ↦ readBehind_givesBack (Program.plays_trace handler _ state)⟩

/-- Lines that are always seen at the same levels. -/
def steady (levels : Levels) : Handler WireAccess.signature Unit where
  answer
    | .sample, _ => (levels, ())
    | .drive _, _ | .delay _, _ | .note _, _ => ((), ())

-- Both failures occur: nobody is there to answer, and the clock is stuck.
example :
    ((perform (transfer {} (.seven 0x50) [.write [0]])).run (steady .released) ()).1.1 =
        .error (.nack 0x50) ∧
      ((perform (transfer {} (.seven 0x50) [.write []])).run (steady ⟨false, true⟩) ()).1.1 =
        .error .clockStretch := by
  decide +kernel

end Scanout.I2c.BitBang
